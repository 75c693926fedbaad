import RequestDispatch.Sorting.Stable

/-!
Every way of sorting here that has a result gives back the items that it was given, each as often,
whatever the test of two items says. The main statement is `stableSort?_perm`.
-/

namespace RequestDispatch
namespace Sorting

variable {α : Type}

theorem insertDescending_perm (less : α → α → Bool) (item : α) (items : List α) :
    (insertDescending less item items).Perm (item :: items) := by
  induction items with
  | nil => exact .refl _
  | cons head rest ih =>
    unfold insertDescending
    split
    · exact (ih.cons head).trans (.swap item head rest)
    · exact .refl _

theorem insertAll_perm (less : α → α → Bool) (sorted items : List α) :
    (insertAll less sorted items).Perm (sorted ++ items) := by
  have step : ∀ (descending : List α),
      (items.foldl (fun descending item => insertDescending less item descending)
        descending).Perm (items ++ descending) := by
    induction items with
    | nil => intro descending; exact .refl _
    | cons item rest ih =>
      intro descending
      exact (ih _).trans
        (((insertDescending_perm less item descending).append_left rest).trans
          List.perm_middle)
  unfold insertAll
  exact (List.reverse_perm _).trans ((step _).trans
    (List.perm_append_comm.trans ((List.reverse_perm sorted).append_right items)))

theorem insertionSort_perm (less : α → α → Bool) (items : List α) :
    (insertionSort less items).Perm items := insertAll_perm less [] items

theorem merge_perm (less : α → α → Bool) (left right : List α) :
    (merge less left right).Perm (left ++ right) := by
  unfold merge
  split
  · exact List.merge_perm_append _
  · exact (List.reverse_perm _).trans ((List.merge_perm_append _).trans
      (((List.reverse_perm right).append (List.reverse_perm left)).trans
        List.perm_append_comm))

theorem draw_split (overtakes : α → α → Bool) (count : Nat) (first second : List α)
    (enough : count ≤ first.length + second.length) :
    ∃ fromFirst fromSecond, first = fromFirst ++ (draw overtakes count first second).first ∧
      second = fromSecond ++ (draw overtakes count first second).second ∧
      (draw overtakes count first second).taken.Perm (fromFirst ++ fromSecond) ∧
      fromFirst.length + fromSecond.length = count := by
  induction count generalizing first second with
  | zero => exact ⟨[], [], by simp [draw]⟩
  | succ count ih =>
    match first, second with
    | [], [] => simp at enough
    | item :: first, [] =>
      obtain ⟨one, two, hone, htwo, htaken, hlength⟩ := ih first [] (by simpa using enough)
      refine ⟨item :: one, two, ?_, ?_, ?_, ?_⟩
      · simpa [draw] using hone
      · simpa [draw] using htwo
      · simpa [draw] using htaken.cons item
      · simp; omega
    | [], other :: second =>
      obtain ⟨one, two, hone, htwo, htaken, hlength⟩ := ih [] second (by simpa using enough)
      refine ⟨one, other :: two, ?_, ?_, ?_, ?_⟩
      · simpa [draw] using hone
      · simpa [draw] using htwo
      · simpa [draw] using (htaken.cons other).trans List.perm_middle.symm
      · simp; omega
    | item :: first, other :: second =>
      by_cases overtaken : overtakes item other = true
      · obtain ⟨one, two, hone, htwo, htaken, hlength⟩ :=
          ih (item :: first) second (by simp at enough ⊢; omega)
        refine ⟨one, other :: two, ?_, ?_, ?_, ?_⟩
        · simpa [draw, overtaken] using hone
        · simpa [draw, overtaken] using htwo
        · simpa [draw, overtaken] using (htaken.cons other).trans List.perm_middle.symm
        · simp; omega
      · obtain ⟨one, two, hone, htwo, htaken, hlength⟩ :=
          ih first (other :: second) (by simp at enough ⊢; omega)
        refine ⟨item :: one, two, ?_, ?_, ?_, ?_⟩
        · simpa [draw, overtaken] using hone
        · simpa [draw, overtaken] using htwo
        · simpa [draw, overtaken] using htaken.cons item
        · simp; omega

/-- A list of which a part is cut off in front and a part at the end, with so many items between. -/
theorem perm_of_both_ends {items before rest after other : List α} (count : Nat)
    (front : items = before ++ rest) (back : items.reverse = after ++ other)
    (between : before.length + count + after.length = items.length) :
    items.Perm (before ++ rest.take count ++ after) := by
  have whole : items = other.reverse ++ after.reverse := by
    have := congrArg List.reverse back
    simpa using this
  have lengths : items.length = other.length + after.length := by
    rw [whole]; simp
  have tail : rest.drop count = after.reverse := by
    have dropped : items.drop (before.length + count) = rest.drop count := by
      rw [front]; simp [← List.drop_drop]
    have dropped' : items.drop other.length = after.reverse := by
      rw [whole, ← List.length_reverse]; simp
    rw [← dropped, show before.length + count = other.length by omega, dropped']
  calc items = before ++ (rest.take count ++ rest.drop count) := by
        rw [List.take_append_drop, front]
    _ = before ++ rest.take count ++ after.reverse := by rw [tail, List.append_assoc]
    _ |>.Perm (before ++ rest.take count ++ after) := (List.reverse_perm after).append_left _

theorem mergeBothEnds?_perm {less : α → α → Bool} {left right merged : List α}
    (shorter : left.length ≤ right.length) (balanced : right.length ≤ left.length + 1)
    (result : mergeBothEnds? less left right = some merged) : merged.Perm (left ++ right) := by
  obtain ⟨a, b, ha, hb, htaken, hlength⟩ :=
    draw_split (fun first second => less second first) left.length left right (by omega)
  obtain ⟨d, c, hd, hc, htaken', hlength'⟩ :=
    draw_split (fun second first => less second first) left.length right.reverse left.reverse
      (by simp)
  unfold mergeBothEnds? at result
  simp only at result
  generalize draw (fun first second => less second first) left.length left right = front at *
  generalize draw (fun second first => less second first) left.length right.reverse
    left.reverse = back at *
  have lengthA := congrArg List.length ha
  have lengthB := congrArg List.length hb
  have lengthC := congrArg List.length hc
  have lengthD := congrArg List.length hd
  simp only [List.length_append, List.length_reverse] at lengthA lengthB lengthC lengthD
  have assemble (count other : Nat) (middle : List α)
      (leftBetween : a.length + count + c.length = left.length)
      (rightBetween : b.length + other + d.length = right.length)
      (isMiddle : middle = front.first.take count ++ front.second.take other) :
      (front.taken ++ middle ++ back.taken.reverse).Perm (left ++ right) := by
    have leftPerm := perm_of_both_ends count ha hc leftBetween
    have rightPerm := perm_of_both_ends other hb hd rightBetween
    refine ((htaken.append_right middle).append
      ((List.reverse_perm _).trans htaken')).trans (.trans ?_ (leftPerm.append rightPerm).symm)
    subst isMiddle
    classical
    refine List.perm_iff_count.2 fun item => ?_
    simp only [List.count_append]
    omega
  by_cases even : right.length = left.length
  · by_cases met : front.first.length + back.second.length = left.length
    · have := assemble 0 0 [] (by omega) (by omega) (by simp)
      simp [even, met] at result this
      exact result ▸ this
    · simp [even, met] at result
  · by_cases inLeft : left.length < front.first.length + back.second.length
    · by_cases met : front.first.length + back.second.length = left.length + 1
      · have := assemble 1 0 (front.first.take 1) (by omega) (by omega) (by simp)
        simp [even, met] at result this
        exact result ▸ this
      · simp [even, inLeft, met] at result
    · by_cases met : front.first.length + back.second.length = left.length
      · have := assemble 0 1 (front.second.take 1) (by omega) (by omega) (by simp)
        simp [even, met] at result this
        exact result ▸ this
      · simp [inLeft, met] at result

theorem sortFour_perm (less : α → α → Bool) (first second third fourth : α) :
    (sortFour less first second third fourth).Perm [first, second, third, fourth] := by
  classical
  refine List.perm_iff_count.2 fun item => ?_
  unfold sortFour
  cases less second first <;> cases less fourth third <;> simp only [] <;> (repeat' split) <;>
    simp only [List.count_cons, List.count_nil] <;> omega

theorem sortHalf_perm (less : α → α → Bool) (byFours : Bool) (items : List α) :
    (sortHalf less byFours items).Perm items := by
  unfold sortHalf
  split
  · split
    · exact (insertAll_perm less _ _).trans ((sortFour_perm less _ _ _ _).append_right _)
    · exact insertionSort_perm less _
  · exact insertionSort_perm less _

theorem blockSort?_perm {less : α → α → Bool} {items sorted : List α}
    (result : blockSort? less items = some sorted) : sorted.Perm items := by
  have left := sortHalf_perm less (8 ≤ items.length) (items.take (items.length / 2))
  have right := sortHalf_perm less (8 ≤ items.length) (items.drop (items.length / 2))
  have lengthLeft := left.length_eq
  have lengthRight := right.length_eq
  simp only [List.length_take, List.length_drop] at lengthLeft lengthRight
  refine (mergeBothEnds?_perm (by omega) (by omega) result).trans ((left.append right).trans ?_)
  rw [List.take_append_drop]

theorem stretch_append (less : α → α → Bool) (falling : Bool) (previous : α) (items : List α) :
    (stretch less falling previous items).1 ++ (stretch less falling previous items).2 = items := by
  induction items generalizing previous with
  | nil => simp [stretch]
  | cons item rest ih =>
    unfold stretch
    split
    · simpa using ih item
    · simp

theorem naturalRun_perm (less : α → α → Bool) (items : List α) :
    ((naturalRun less items).1 ++ (naturalRun less items).2).Perm items := by
  unfold naturalRun
  split
  · next first second rest =>
    have whole : first :: second :: (stretch less (less second first) second rest).1 ++
        (stretch less (less second first) second rest).2 = first :: second :: rest := by
      simp [stretch_append]
    simp only
    split
    · exact ((List.reverse_perm _).append_right _).trans (.of_eq whole)
    · exact .of_eq whole
  · simp

theorem naturalRun_ne_nil (less : α → α → Bool) (items : List α) (nonempty : items ≠ []) :
    (naturalRun less items).1 ≠ [] := by
  unfold naturalRun
  split
  · simp only
    split <;> simp
  · exact nonempty

theorem firstRun?_perm {less : α → α → Bool} {shortest : Nat} {eager : Bool} {items left : List α}
    {run : Run α} (result : firstRun? less shortest eager items = some (run, left)) :
    (run.items ++ left).Perm items := by
  have natural := naturalRun_perm less items
  unfold firstRun? at result
  generalize naturalRun less items = stretched at natural result
  simp only at result
  split at result
  · cases result
    exact natural
  · split at result
    · obtain ⟨block, sorted, same⟩ := Option.map_eq_some_iff.1 result
      cases same
      exact ((blockSort?_perm sorted).append_right _).trans (by rw [List.take_append_drop])
    · cases result
      simp

theorem firstRun?_length {less : α → α → Bool} {shortest : Nat} {eager : Bool}
    {items left : List α} {run : Run α}
    (result : firstRun? less shortest eager items = some (run, left)) (nonempty : items ≠ [])
    (positive : 0 < shortest) : left.length < items.length := by
  have whole := (firstRun?_perm result).length_eq
  have taken : 0 < run.items.length := by
    have natural := List.length_pos_iff.2 (naturalRun_ne_nil less items nonempty)
    have some := List.length_pos_iff.2 nonempty
    unfold firstRun? at result
    generalize naturalRun less items = stretched at natural result
    simp only at result
    split at result
    · cases result
      exact natural
    · split at result
      · obtain ⟨block, sorted, same⟩ := Option.map_eq_some_iff.1 result
        cases same
        rw [(blockSort?_perm sorted).length_eq]
        simp only [List.length_take, blockLimit]
        omega
      · cases result
        simp only [List.length_take]
        omega
  simp only [List.length_append] at whole
  omega

theorem runs?_perm {less : α → α → Bool} {shortest : Nat} {eager : Bool} {count : Nat}
    {items : List α} {all : List (Run α)} (positive : 0 < shortest) (enough : items.length ≤ count)
    (result : runs? less shortest eager count items = some all) :
    (all.flatMap Run.items).Perm items := by
  induction count generalizing items all with
  | zero =>
    cases result
    rw [List.length_eq_zero_iff.1 (Nat.le_zero.1 enough)]
    exact .refl _
  | succ count ih =>
    cases items with
    | nil =>
      cases result
      exact .refl _
    | cons item items =>
      obtain ⟨⟨run, left⟩, first, rest⟩ := Option.bind_eq_some_iff.1 result
      obtain ⟨others, more, same⟩ := Option.map_eq_some_iff.1 rest
      cases same
      have fewer := firstRun?_length first (by simp) positive
      simp only [List.length_cons] at enough fewer
      exact ((ih (by omega) more).append_left _).trans (firstRun?_perm first)

theorem Run.finish?_perm {sort : List α → Option (List α)}
    (keeps : ∀ items sorted, sort items = some sorted → sorted.Perm items) {run : Run α}
    {sorted : List α} (result : run.finish? sort = some sorted) : sorted.Perm run.items := by
  unfold Run.finish? at result
  split at result
  · cases result
    exact .refl _
  · exact keeps _ _ result

theorem Run.join?_perm {less : α → α → Bool} {sort : List α → Option (List α)}
    (keeps : ∀ items sorted, sort items = some sorted → sorted.Perm items)
    {left right joined : Run α} (result : left.join? less sort right = some joined) :
    joined.items.Perm (left.items ++ right.items) := by
  unfold Run.join? at result
  split at result
  · obtain ⟨first, fromLeft, rest⟩ := Option.bind_eq_some_iff.1 result
    obtain ⟨second, fromRight, same⟩ := Option.map_eq_some_iff.1 rest
    cases same
    exact (merge_perm less _ _).trans
      ((Run.finish?_perm keeps fromLeft).append (Run.finish?_perm keeps fromRight))
  · cases result
    exact .refl _

def pendingItems (pending : List (Run α × Nat)) : List α :=
  pending.reverse.flatMap fun entry => entry.1.items

theorem pendingItems_cons (entry : Run α × Nat) (pending : List (Run α × Nat)) :
    pendingItems (entry :: pending) = pendingItems pending ++ entry.1.items := by
  simp [pendingItems]

theorem joinPending?_perm {less : α → α → Bool} {sort : List α → Option (List α)}
    (keeps : ∀ items sorted, sort items = some sorted → sorted.Perm items) {depth : Nat}
    {pending remaining : List (Run α × Nat)} {run joined : Run α}
    (result : joinPending? less sort depth pending run = some (remaining, joined)) :
    (pendingItems remaining ++ joined.items).Perm (pendingItems pending ++ run.items) := by
  induction pending generalizing run with
  | nil =>
    cases result
    exact .refl _
  | cons entry others ih =>
    unfold joinPending? at result
    split at result
    · obtain ⟨both, joins, rest⟩ := Option.bind_eq_some_iff.1 result
      refine (ih rest).trans ?_
      rw [pendingItems_cons, List.append_assoc]
      exact (Run.join?_perm keeps joins).append_left _
    · cases result
      exact .refl _

theorem joinPending?_zero {less : α → α → Bool} {sort : List α → Option (List α)}
    {pending remaining : List (Run α × Nat)} {run joined : Run α}
    (result : joinPending? less sort 0 pending run = some (remaining, joined)) :
    remaining = [] := by
  induction pending generalizing run with
  | nil =>
    cases result
    rfl
  | cons entry others ih =>
    unfold joinPending? at result
    obtain ⟨both, _, rest⟩ := Option.bind_eq_some_iff.1 (by simpa using result)
    exact ih rest

theorem joinRuns?_perm {less : α → α → Bool} {sort : List α → Option (List α)}
    (keeps : ∀ items sorted, sort items = some sorted → sorted.Perm items) {count start : Nat}
    {pending : List (Run α × Nat)} {latest joined : Run α} {others : List (Run α)}
    (result : joinRuns? less sort count pending start latest others = some joined) :
    joined.items.Perm (pendingItems pending ++ latest.items ++ others.flatMap Run.items) := by
  induction others generalizing pending start latest with
  | nil =>
    obtain ⟨⟨remaining, last⟩, whole, same⟩ := Option.map_eq_some_iff.1 result
    cases same
    have kept := joinPending?_perm keeps whole
    rw [joinPending?_zero whole] at kept
    simpa [pendingItems] using kept
  | cons next others ih =>
    obtain ⟨⟨remaining, both⟩, joins, rest⟩ := Option.bind_eq_some_iff.1 result
    refine (ih rest).trans ?_
    rw [pendingItems_cons, List.flatMap_cons, ← List.append_assoc]
    exact ((joinPending?_perm keeps joins).append_right _).append_right _

theorem shortestRun_pos (count : Nat) (positive : 0 < count) : 0 < shortestRun count := by
  unfold shortestRun
  split
  · omega
  · have : 2 ≤ Nat.pow 2 ((1 + Nat.log2 count) / 2) := by
      have exponent : 1 ≤ (1 + Nat.log2 count) / 2 := by
        have : 12 ≤ Nat.log2 count := (Nat.le_log2 (by omega)).2 (by omega)
        omega
      calc 2 = 2 ^ 1 := rfl
        _ ≤ 2 ^ ((1 + Nat.log2 count) / 2) := Nat.pow_le_pow_right (by omega) exponent
    exact Nat.div_pos (Nat.le_trans this (Nat.le_add_right _ _)) (by omega)

theorem runSort?_perm {less : α → α → Bool} {sort : List α → Option (List α)}
    (keeps : ∀ items sorted, sort items = some sorted → sorted.Perm items) {eager : Bool}
    {items sorted : List α} (result : runSort? less sort eager items = some sorted) :
    sorted.Perm items := by
  obtain ⟨all, cut, rest⟩ := Option.bind_eq_some_iff.1 result
  cases items with
  | nil =>
    cases cut
    cases rest
    exact .refl _
  | cons item items =>
    have whole := runs?_perm (shortestRun_pos _ (by simp)) (Nat.le_refl _) cut
    cases all with
    | nil => simp at whole
    | cons first others =>
      obtain ⟨joined, joins, finished⟩ := Option.bind_eq_some_iff.1 rest
      have together := joinRuns?_perm keeps joins
      simp only [pendingItems, List.reverse_nil, List.flatMap_nil, List.nil_append] at together
      exact (Run.finish?_perm keeps finished).trans (together.trans whole)

theorem partitionSort?_perm {less : α → α → Bool} {limit : Nat} {ancestor : Option α}
    {items sorted : List α} (result : partitionSort? less limit ancestor items = some sorted) :
    sorted.Perm items := by
  induction limit generalizing ancestor items sorted with
  | zero =>
    unfold partitionSort? at result
    split at result
    · exact blockSort?_perm result
    · refine runSort?_perm (fun items sorted same => ?_) result
      cases same
      exact .refl _
  | succ limit ih =>
    unfold partitionSort? at result
    split at result
    · exact blockSort?_perm result
    · simp only at result
      split at result
      · cases result
        exact insertionSort_perm less items
      · next pivot after cut =>
        have whole : items.take (pivotPosition less items.toArray 0 (items.length / 8)) ++
            pivot :: after = items := by rw [← cut, List.take_append_drop]
        generalize items.take (pivotPosition less items.toArray 0 (items.length / 8)) = before
          at whole result
        rw [← whole]
        classical
        split at result
        · obtain ⟨greater, more, same⟩ := Option.map_eq_some_iff.1 result
          cases same
          refine ((ih more).append_left _).trans (List.perm_iff_count.2 fun item => ?_)
          have one := (List.filter_append_perm (fun item => !less pivot item) before).count_eq item
          have two := (List.filter_append_perm (fun item => !less pivot item) after).count_eq item
          simp only [List.count_append, Bool.not_not] at one two
          simp only [List.count_append, List.count_cons, List.filter_append]
          omega
        · obtain ⟨low, fromSmaller, rest⟩ := Option.bind_eq_some_iff.1 result
          obtain ⟨high, fromHigh, same⟩ := Option.map_eq_some_iff.1 rest
          cases same
          refine ((ih fromSmaller).append (ih fromHigh)).trans
            (List.perm_iff_count.2 fun item => ?_)
          have one := (List.filter_append_perm (fun item => less item pivot) before).count_eq item
          have two := (List.filter_append_perm (fun item => less item pivot) after).count_eq item
          simp only [List.count_append] at one two
          simp only [List.count_append, List.count_cons, List.filter_append]
          omega

/-- Sorting loses and adds nothing, whatever the test of two items says. -/
theorem stableSort?_perm {less : α → α → Bool} {items sorted : List α}
    (result : stableSort? less items = some sorted) : sorted.Perm items := by
  unfold stableSort? at result
  split at result
  · cases result
    exact insertionSort_perm less items
  · exact runSort?_perm (fun _ _ => partitionSort?_perm) result

end Sorting
end RequestDispatch
