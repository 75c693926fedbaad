import RequestDispatch.Sorting.Sorted
import Mathlib.Data.List.Basic

/-!
Sorting sees items through the test alone. If items are renamed, and the test asks about the names,
then the result is renamed; so a test that is consistent on the given items sorts them, whatever it
says of others. The main statement is `stableSort?_succeeds_within`.
-/

namespace RequestDispatch
namespace Sorting

variable {α β : Type} (rename : α → β) (less : β → β → Bool)

def renamedTest : α → α → Bool := fun first second => less (rename first) (rename second)

theorem renamed_test (first second : α) :
    less (rename first) (rename second) = renamedTest rename less first second := by
  rw [renamedTest]

theorem insertDescending_map (item : α) (items : List α) :
    insertDescending less (rename item) (items.map rename) =
      (insertDescending (renamedTest rename less) item items).map rename := by
  induction items with
  | nil => rfl
  | cons head rest ih =>
      simp only [List.map_cons, insertDescending, renamed_test rename less]
      split
      · rw [ih, List.map_cons]
      · rfl

theorem insertAll_map (sorted items : List α) :
    insertAll less (sorted.map rename) (items.map rename) =
      (insertAll (renamedTest rename less) sorted items).map rename := by
  have step (descending : List α) :
      (items.map rename).foldl (fun descending item => insertDescending less item descending)
          (descending.map rename) =
        (items.foldl (fun descending item =>
          insertDescending (renamedTest rename less) item descending) descending).map rename := by
    induction items generalizing descending with
    | nil => rfl
    | cons item items ih =>
        rw [List.map_cons, List.foldl_cons, insertDescending_map, ih, List.foldl_cons]
  rw [insertAll, ← List.map_reverse, step, ← List.map_reverse, insertAll]

theorem insertionSort_map (items : List α) :
    insertionSort less (items.map rename) =
      (insertionSort (renamedTest rename less) items).map rename :=
  insertAll_map rename less [] items

theorem merge_map (left right : List α) :
    merge less (left.map rename) (right.map rename) =
      (merge (renamedTest rename less) left right).map rename := by
  simp only [merge, List.length_map]
  split
  · rw [List.map_merge]
    intros
    rfl
  · rw [List.map_reverse, List.map_merge, List.map_reverse, List.map_reverse]
    intros
    rfl

def Drawn.map (drawn : Drawn α) : Drawn β :=
  ⟨drawn.taken.map rename, drawn.first.map rename, drawn.second.map rename⟩

theorem draw_map (overtakes : β → β → Bool) (count : Nat) (first second : List α) :
    draw overtakes count (first.map rename) (second.map rename) =
      (draw (renamedTest rename overtakes) count first second).map rename := by
  induction count generalizing first second with
  | zero => rfl
  | succ count ih =>
      cases first with
      | nil =>
          cases second with
          | nil => rfl
          | cons other second =>
              have deeper := ih [] second
              simp only [List.map_nil] at deeper
              simp only [List.map_nil, List.map_cons, draw, deeper]
              rfl
      | cons item first =>
          cases second with
          | nil =>
              have deeper := ih first []
              simp only [List.map_nil] at deeper
              simp only [List.map_nil, List.map_cons, draw, deeper]
              rfl
          | cons other second =>
              have left := ih first (other :: second)
              have right := ih (item :: first) second
              simp only [List.map_cons] at left right
              simp only [List.map_cons, draw, left, right, renamed_test rename overtakes]
              split <;> rfl

theorem mergeBothEnds?_map (left right : List α) :
    mergeBothEnds? less (left.map rename) (right.map rename) =
      (mergeBothEnds? (renamedTest rename less) left right).map (List.map rename) := by
  have front : draw (fun first second => less second first) left.length (left.map rename)
      (right.map rename) = (draw (fun first second => renamedTest rename less second first)
        left.length left right).map rename :=
    draw_map rename (fun first second => less second first) left.length left right
  have back : draw (fun second first => less second first) left.length (right.reverse.map rename)
      (left.reverse.map rename) = (draw (fun second first => renamedTest rename less second first)
        left.length right.reverse left.reverse).map rename :=
    draw_map rename (fun second first => less second first) left.length right.reverse left.reverse
  simp only [mergeBothEnds?, List.length_map, ← List.map_reverse]
  rw [front, back]
  simp only [Drawn.map, List.length_map, ← List.map_take, ← List.map_reverse,
    apply_ite (Option.map (List.map rename)), Option.map_some, Option.map_none, List.map_append,
    apply_ite (List.map rename), List.map_nil]

theorem sortFour_map (first second third fourth : α) :
    sortFour less (rename first) (rename second) (rename third) (rename fourth) =
      (sortFour (renamedTest rename less) first second third fourth).map rename := by
  have pair (test : Bool) (one two : α) :
      (if test = true then (rename one, rename two) else (rename two, rename one)) =
        Prod.map rename rename (if test = true then (one, two) else (two, one)) := by
    cases test <;> rfl
  have pick (test : Bool) (one two : α) :
      (if test = true then rename one else rename two) =
        rename (if test = true then one else two) := by
    cases test <;> rfl
  simp only [sortFour, pair, Prod.map_fst, Prod.map_snd, renamed_test rename less, pick,
    apply_ite (List.map rename), List.map_cons, List.map_nil]

theorem sortHalf_map (byFours : Bool) (items : List α) :
    sortHalf less byFours (items.map rename) =
      (sortHalf (renamedTest rename less) byFours items).map rename := by
  match items with
  | first :: second :: third :: fourth :: rest =>
      simp only [List.map_cons, sortHalf]
      split
      · rw [sortFour_map, insertAll_map]
      · exact insertionSort_map rename less (first :: second :: third :: fourth :: rest)
  | [] => rfl
  | [first] => rfl
  | [first, second] => exact insertionSort_map rename less [first, second]
  | [first, second, third] => exact insertionSort_map rename less [first, second, third]

theorem blockSort?_map (items : List α) :
    blockSort? less (items.map rename) =
      (blockSort? (renamedTest rename less) items).map (List.map rename) := by
  simp only [blockSort?, List.length_map, ← List.map_take, ← List.map_drop, sortHalf_map,
    mergeBothEnds?_map]

theorem stretch_map (falling : Bool) (previous : α) (items : List α) :
    stretch less falling (rename previous) (items.map rename) =
      (stretch (renamedTest rename less) falling previous items).map (List.map rename)
        (List.map rename) := by
  induction items generalizing previous with
  | nil => rfl
  | cons item rest ih =>
      simp only [List.map_cons, stretch, renamed_test rename less, ih]
      split <;> rfl

theorem naturalRun_map (items : List α) :
    naturalRun less (items.map rename) =
      (naturalRun (renamedTest rename less) items).map (List.map rename) (List.map rename) := by
  match items with
  | [] => rfl
  | [first] => rfl
  | first :: second :: rest =>
      simp only [List.map_cons, naturalRun, renamed_test rename less, stretch_map]
      split <;> simp

def Run.map (run : Run α) : Run β := ⟨run.items.map rename, run.sorted⟩

theorem firstRun?_map (shortest : Nat) (eager : Bool) (items : List α) :
    firstRun? less shortest eager (items.map rename) =
      (firstRun? (renamedTest rename less) shortest eager items).map
        (Prod.map (Run.map rename) (List.map rename)) := by
  simp only [firstRun?, naturalRun_map, Prod.map_fst, Prod.map_snd, List.length_map,
    ← List.map_take, ← List.map_drop, blockSort?_map]
  split
  · rfl
  · split
    · rw [Option.map_map, Option.map_map]
      rfl
    · rfl

theorem runs?_map (shortest : Nat) (eager : Bool) (count : Nat) (items : List α) :
    runs? less shortest eager count (items.map rename) =
      (runs? (renamedTest rename less) shortest eager count items).map
        (List.map (Run.map rename)) := by
  induction count generalizing items with
  | zero => rfl
  | succ count ih =>
      cases items with
      | nil => rfl
      | cons item items =>
          rw [List.map_cons, runs?, ← List.map_cons, firstRun?_map, runs?]
          cases firstRun? (renamedTest rename less) shortest eager (item :: items) with
          | none => rfl
          | some found =>
              simp only [Option.map_some, Option.bind_some, Prod.map_fst, Prod.map_snd, ih,
                Option.map_map]
              rfl

/-- Two ways to sort give the same arrangements under different names. -/
def Renames (sort : List β → Option (List β)) (plain : List α → Option (List α)) : Prop :=
  ∀ items, sort (items.map rename) = (plain items).map (List.map rename)

variable {sort : List β → Option (List β)} {plain : List α → Option (List α)}

theorem finish?_map (renames : Renames rename sort plain) (run : Run α) :
    (run.map rename).finish? sort = (run.finish? plain).map (List.map rename) := by
  obtain ⟨items, sorted⟩ := run
  cases sorted with
  | true => rfl
  | false => exact renames items

theorem join?_map (renames : Renames rename sort plain) (left right : Run α) :
    (left.map rename).join? less sort (right.map rename) =
      (left.join? (renamedTest rename less) plain right).map (Run.map rename) := by
  by_cases sorted : (left.sorted || right.sorted) = true
  · have mapped : ((left.map rename).sorted || (right.map rename).sorted) = true := sorted
    rw [Run.join?, if_pos mapped, Run.join?, if_pos sorted, finish?_map rename renames,
      finish?_map rename renames]
    cases left.finish? plain with
    | none => rfl
    | some first =>
        cases right.finish? plain with
        | none => rfl
        | some second =>
            simp only [Option.map_some, Option.bind_some, merge_map]
            rfl
  · have mapped : ¬((left.map rename).sorted || (right.map rename).sorted) = true := sorted
    rw [Run.join?, if_neg mapped, Run.join?, if_neg sorted]
    simp [Run.map]

theorem joinPending?_map (renames : Renames rename sort plain) (depth : Nat)
    (pending : List (Run α × Nat)) (run : Run α) :
    joinPending? less sort depth (pending.map (Prod.map (Run.map rename) id)) (run.map rename) =
      (joinPending? (renamedTest rename less) plain depth pending run).map
        (Prod.map (List.map (Prod.map (Run.map rename) id)) (Run.map rename)) := by
  induction pending generalizing run with
  | nil => rfl
  | cons entry others ih =>
      simp only [List.map_cons, joinPending?, Prod.map_fst, Prod.map_snd, id,
        join?_map rename less renames]
      split
      · cases entry.1.join? (renamedTest rename less) plain run with
        | none => rfl
        | some joined => exact ih joined
      · rfl

theorem joinRuns?_map (renames : Renames rename sort plain) (count : Nat)
    (pending : List (Run α × Nat)) (start : Nat) (latest : Run α) (others : List (Run α)) :
    joinRuns? less sort count (pending.map (Prod.map (Run.map rename) id)) start
        (latest.map rename) (others.map (Run.map rename)) =
      (joinRuns? (renamedTest rename less) plain count pending start latest others).map
        (Run.map rename) := by
  induction others generalizing pending start latest with
  | nil =>
      simp only [List.map_nil, joinRuns?, joinPending?_map rename less renames, Option.map_map]
      rfl
  | cons next others ih =>
      have length (run : Run α) : (run.map rename).items.length = run.items.length := by
        simp [Run.map]
      simp only [List.map_cons, joinRuns?, length, joinPending?_map rename less renames]
      generalize borderDepth count start _ _ = depth
      cases joinPending? (renamedTest rename less) plain depth pending latest with
      | none => rfl
      | some joined => exact ih ((joined.2, depth) :: joined.1) _ next

theorem runSort?_map (renames : Renames rename sort plain) (eager : Bool) (items : List α) :
    runSort? less sort eager (items.map rename) =
      (runSort? (renamedTest rename less) plain eager items).map (List.map rename) := by
  simp only [runSort?, List.length_map, runs?_map]
  cases runs? (renamedTest rename less) (shortestRun items.length) eager items.length items with
  | none => rfl
  | some runs =>
      cases runs with
      | nil => rfl
      | cons first others =>
          have joined := joinRuns?_map rename less renames items.length [] 0 first others
          rw [List.map_nil] at joined
          simp only [Option.map_some, Option.bind_some, List.map_cons, joined]
          cases joinRuns? (renamedTest rename less) plain items.length [] 0 first others with
          | none => rfl
          | some run => exact finish?_map rename renames run

theorem middlePosition_map (items : List α) (first second third : Nat) :
    middlePosition less (items.map rename).toArray first second third =
      middlePosition (renamedTest rename less) items.toArray first second third := by
  simp only [middlePosition, List.getElem?_toArray, List.getElem?_map]
  cases items[first]? with
  | none => rfl
  | some one =>
      cases items[second]? with
      | none => rfl
      | some two =>
          cases items[third]? with
          | none => rfl
          | some three => rfl

theorem pivotPosition_map (items : List α) (start eighth : Nat) :
    pivotPosition less (items.map rename).toArray start eighth =
      pivotPosition (renamedTest rename less) items.toArray start eighth := by
  fun_induction pivotPosition (renamedTest rename less) items.toArray start eighth with
  | case1 start eighth long ih1 ih2 ih3 =>
      rw [pivotPosition, if_pos long, ih1, ih2, ih3, middlePosition_map]
  | case2 start eighth short =>
      rw [pivotPosition, if_neg short, middlePosition_map]

theorem partitionSort?_map (limit : Nat) (ancestor : Option α) (items : List α) :
    partitionSort? less limit (ancestor.map rename) (items.map rename) =
      (partitionSort? (renamedTest rename less) limit ancestor items).map (List.map rename) := by
  induction limit generalizing ancestor items with
  | zero =>
      have whole : Renames rename some some := fun _ => rfl
      simp only [partitionSort?, List.length_map, blockSort?_map, runSort?_map rename less whole]
      split <;> rfl
  | succ limit ih =>
      simp only [partitionSort?, List.length_map, blockSort?_map, pivotPosition_map]
      split
      · rfl
      · generalize pivotPosition (renamedTest rename less) items.toArray 0 _ = position
        rw [← List.map_drop, ← List.map_take]
        cases items.drop position with
        | nil => exact congrArg some (insertionSort_map rename less items)
        | cons pivot after =>
            generalize items.take position = before
            have kept (test : β → Bool) (part : List α) :
                (part.map rename).filter test =
                  (part.filter fun item => test (rename item)).map rename := List.filter_map ..
            have asked (test : β → Bool) :
                (ancestor.map rename).any test = ancestor.any fun item => test (rename item) := by
              cases ancestor <;> rfl
            simp only [List.map_cons, ← List.map_append, kept, asked, List.isEmpty_map,
              renamed_test rename less]
            split
            · have greater := ih none ((before ++ after).filter fun item =>
                renamedTest rename less pivot item)
              rw [Option.map_none] at greater
              rw [← List.map_cons, ← List.map_append, greater, Option.map_map, Option.map_map]
              congr 1
              funext sorted
              simp
            · have high := ih (some pivot)
              rw [Option.map_some] at high
              rw [← List.map_cons, ← List.map_append, ih, high]
              cases partitionSort? (renamedTest rename less) limit ancestor _ with
              | none => rfl
              | some sorted =>
                  simp only [Option.map_some, Option.bind_some, Option.map_map]
                  congr 1
                  funext more
                  simp

theorem stableSort?_map (items : List α) :
    stableSort? less (items.map rename) =
      (stableSort? (renamedTest rename less) items).map (List.map rename) := by
  simp only [stableSort?, List.length_map, insertionSort_map]
  split
  · rfl
  · apply runSort?_map
    intro part
    have length : (part.map rename).length = part.length := List.length_map rename
    have divided := partitionSort?_map rename less (2 * Nat.log2 part.length) none part
    simpa only [length, Option.map_none] using divided

theorem stableSort?_succeeds_within {member : β → Prop} {items : List β}
    (inside : ∀ item ∈ items, member item)
    (consistent : Consistent (renamedTest (Subtype.val : {item // member item} → β) less)) :
    Succeeds less (stableSort? less items) := by
  have named : (items.attachWith member inside).map Subtype.val = items := by simp
  obtain ⟨sorted, found, inOrder⟩ :=
    stableSort?_succeeds consistent (items.attachWith member inside)
  refine ⟨sorted.map Subtype.val, ?_, List.pairwise_map.2 inOrder⟩
  rw [← named, stableSort?_map, found, Option.map_some]

end Sorting
end RequestDispatch
