import RequestDispatch.Value.Collection
import Mathlib.Data.List.Basic
import Mathlib.Data.List.Induction

/-!
Equality of values, and which values are held once. Equality is symmetric and transitive, but what
is not a number does not equal itself. The duplicates of a list are what equals a value kept before;
looking scalars up by their keys finds the same ones (`dedup_eq_distinct`).
-/

namespace RequestDispatch

namespace Binary

variable {layout : Layout} {left middle right : Binary layout}

theorem equal_iff :
    left.equal right = true ↔
      ∃ rank, left.signedRank? = some rank ∧ right.signedRank? = some rank := by
  rw [equal]
  cases left.signedRank? with
  | none => simp
  | some rank =>
      cases right.signedRank? with
      | none => simp
      | some other => simp [@eq_comm _ rank]

theorem equal_trans (first : left.equal middle = true) (second : middle.equal right = true) :
    left.equal right = true := by
  obtain ⟨rank, leftRank, middleRank⟩ := equal_iff.1 first
  obtain ⟨other, same, rightRank⟩ := equal_iff.1 second
  cases middleRank.symm.trans same
  exact equal_iff.2 ⟨rank, leftRank, rightRank⟩

end Binary

namespace Value

mutual

theorem equal_comm (left right : Value) : left.equal right = right.equal left := by
  cases left with
  | array items =>
      cases right with
      | array others => exact equal_items_comm items others
      | _ => rfl
  | collection kind items =>
      cases right with
      | collection otherKind others =>
          simp only [equal]
          rw [Bool.beq_comm, equal_items_comm items others]
      | _ => rfl
  | map entries =>
      cases right with
      | map others => exact equal_entries_comm entries others
      | _ => rfl
  | _ => cases right <;> simp [equal, Bool.beq_comm, Binary.equal_comm]

theorem equal_items_comm (lefts rights : List Value) :
    equalItems lefts rights = equalItems rights lefts := by
  match lefts, rights with
  | [], [] => rfl
  | [], _ :: _ => rfl
  | _ :: _, [] => rfl
  | left :: lefts, right :: rights =>
      simp only [equalItems]
      rw [equal_comm left right, equal_items_comm lefts rights]

theorem equal_entries_comm (lefts rights : List (Value × Value)) :
    equalEntries lefts rights = equalEntries rights lefts := by
  match lefts, rights with
  | [], [] => rfl
  | [], _ :: _ => rfl
  | _ :: _, [] => rfl
  | (leftKey, left) :: lefts, (rightKey, right) :: rights =>
      simp only [equalEntries]
      rw [equal_comm leftKey rightKey, equal_comm left right, equal_entries_comm lefts rights]

end

mutual

theorem equal_trans (left middle right : Value) (first : left.equal middle = true)
    (second : middle.equal right = true) : left.equal right = true := by
  cases left with
  | array items =>
      cases middle with
      | array others =>
          cases right with
          | array more => exact equal_items_trans items others more first second
          | _ => cases second
      | _ => cases first
  | collection kind items =>
      cases middle with
      | collection otherKind others =>
          cases right with
          | collection moreKind more =>
              simp only [equal, Bool.and_eq_true, beq_iff_eq] at first second ⊢
              exact ⟨first.1.trans second.1, equal_items_trans items others more first.2 second.2⟩
          | _ => cases second
      | _ => cases first
  | map entries =>
      cases middle with
      | map others =>
          cases right with
          | map more => exact equal_entries_trans entries others more first second
          | _ => cases second
      | _ => cases first
  | float number =>
      cases middle with
      | float other =>
          cases right with
          | float more => exact Binary.equal_trans first second
          | _ => cases second
      | _ => cases first
  | _ => cases middle <;> cases right <;> simp_all [equal]

theorem equal_items_trans (lefts middles rights : List Value)
    (first : equalItems lefts middles = true) (second : equalItems middles rights = true) :
    equalItems lefts rights = true := by
  match lefts, middles, rights with
  | [], [], [] => rfl
  | [], _ :: _, _ => cases first
  | _ :: _, [], _ => cases first
  | _, [], _ :: _ => cases second
  | _, _ :: _, [] => cases second
  | left :: lefts, middle :: middles, right :: rights =>
      simp only [equalItems, Bool.and_eq_true] at first second ⊢
      exact ⟨equal_trans left middle right first.1 second.1,
        equal_items_trans lefts middles rights first.2 second.2⟩

theorem equal_entries_trans (lefts middles rights : List (Value × Value))
    (first : equalEntries lefts middles = true) (second : equalEntries middles rights = true) :
    equalEntries lefts rights = true := by
  match lefts, middles, rights with
  | [], [], [] => rfl
  | [], _ :: _, _ => cases first
  | _ :: _, [], _ => cases first
  | _, [], _ :: _ => cases second
  | _, _ :: _, [] => cases second
  | (leftKey, left) :: lefts, (middleKey, middle) :: middles, (rightKey, right) :: rights =>
      simp only [equalEntries, Bool.and_eq_true] at first second ⊢
      exact ⟨⟨equal_trans leftKey middleKey rightKey first.1.1 second.1.1,
        equal_trans left middle right first.1.2 second.1.2⟩,
        equal_entries_trans lefts middles rights first.2 second.2⟩

end

/-- The items without those that are equal to one kept before them. -/
def distinct (items : List Value) : List Value :=
  items.eraseDupsBy fun item kept => kept.equal item

theorem erase_loop_concat (items kept : List Value) (item : Value) :
    List.eraseDupsBy.loop (fun item kept => kept.equal item) (items ++ [item]) kept =
      let found := List.eraseDupsBy.loop (fun item kept => kept.equal item) items kept
      if found.any fun other => other.equal item then found else found ++ [item] := by
  induction items generalizing kept with
  | nil =>
      simp only [List.nil_append, List.eraseDupsBy.loop, List.any_reverse]
      cases kept.any fun other => other.equal item <;> simp
  | cons first items ih =>
      rw [List.cons_append, List.eraseDupsBy.loop, List.eraseDupsBy.loop]
      cases kept.any fun other => other.equal first
      · exact ih (first :: kept)
      · exact ih kept

theorem distinct_concat (items : List Value) (item : Value) :
    distinct (items ++ [item]) =
      if (distinct items).any fun other => other.equal item then distinct items
      else distinct items ++ [item] :=
  erase_loop_concat items [] item

theorem kept_or_equal {items : List Value} {item : Value} (member : item ∈ items) :
    ∃ kept ∈ distinct items, kept = item ∨ kept.equal item = true := by
  induction items using List.reverseRecOn with
  | nil => cases member
  | append_singleton items last ih =>
      rw [distinct_concat]
      rcases List.mem_append.1 member with earlier | latest
      · obtain ⟨kept, held, same⟩ := ih earlier
        refine ⟨kept, ?_, same⟩
        split
        · exact held
        · exact List.mem_append_left _ held
      · cases List.mem_singleton.1 latest
        split
        · next repeated =>
          obtain ⟨kept, held, same⟩ := List.any_eq_true.1 repeated
          exact ⟨kept, held, .inr same⟩
        · exact ⟨item, by simp, .inl rfl⟩

theorem distinct_unequal (items : List Value) :
    (distinct items).Pairwise fun earlier later => earlier.equal later = false := by
  induction items using List.reverseRecOn with
  | nil => exact .nil
  | append_singleton items item ih =>
      rw [distinct_concat]
      split
      · exact ih
      · next fresh =>
        rw [List.pairwise_append]
        refine ⟨ih, List.pairwise_singleton _ _, ?_⟩
        intro kept member other last
        cases List.mem_singleton.1 last
        exact Bool.eq_false_iff.2 fun same => fresh (List.any_eq_true.2 ⟨kept, member, same⟩)

/-- What equals a scalar has its key. -/
theorem equal_scalar_iff {left right : Value} {key : ScalarKey}
    (scalar : right.scalarKey? = some key) :
    left.equal right = true ↔ left.scalarKey? = some key := by
  cases right with
  | float number =>
      obtain ⟨rank, own, rfl⟩ := Option.map_eq_some_iff.1 scalar
      cases left <;> simp [equal, scalarKey?, Binary.equal_iff, own]
  | array | collection | map | object => cases scalar
  | _ =>
      cases scalar
      cases left <;> simp [equal, scalarKey?]

/-- What has no key equals only what has none, and no number. -/
theorem equal_compound {left right : Value} (compound : right.scalarKey? = none)
    (same : left.equal right = true) :
    left.scalarKey? = none ∧ left.isFloat = false ∧ right.isFloat = false := by
  cases right with
  | float number =>
      cases left with
      | float other =>
          obtain ⟨rank, -, own⟩ := Binary.equal_iff.1 same
          simp [scalarKey?, own] at compound
      | _ => cases same
  | array | collection | map | object =>
      cases left <;> first | cases same | exact ⟨rfl, rfl, rfl⟩
  | _ => cases compound

/-- What a search for duplicates knows of the values kept so far: the keys of the scalars, and the
values without a key but for those that are not a number. -/
structure Knows (seen : List ScalarKey) (others kept : List Value) : Prop where
  scalar : ∀ key, key ∈ seen ↔ ∃ value ∈ kept, value.scalarKey? = some key
  compound : ∀ value, value ∈ others ↔
    value ∈ kept ∧ value.scalarKey? = none ∧ value.isFloat = false

section

variable {seen : List ScalarKey} {others kept : List Value} {item : Value}

theorem Knows.scalar_repeated (knows : Knows seen others kept) {key : ScalarKey}
    (scalar : item.scalarKey? = some key) :
    (kept.any fun other => other.equal item) = seen.contains key := by
  rw [Bool.eq_iff_iff, List.any_eq_true, List.contains_iff_mem, knows.scalar]
  simp only [equal_scalar_iff scalar]

theorem Knows.compound_repeated (knows : Knows seen others kept)
    (compound : item.scalarKey? = none) :
    (kept.any fun other => other.equal item) =
      (!item.isFloat && others.any fun other => other.equal item) := by
  rw [Bool.eq_iff_iff, Bool.and_eq_true, List.any_eq_true, List.any_eq_true]
  constructor
  · rintro ⟨other, member, same⟩
    obtain ⟨own, single, alone⟩ := equal_compound compound same
    exact ⟨by simp [alone], other, (knows.compound other).2 ⟨member, own, single⟩, same⟩
  · rintro ⟨-, other, member, same⟩
    exact ⟨other, ((knows.compound other).1 member).1, same⟩

theorem Knows.keep (knows : Knows seen others kept) {nowSeen : List ScalarKey}
    {nowOthers : List Value}
    (scalar : ∀ key, key ∈ nowSeen ↔ item.scalarKey? = some key ∨ key ∈ seen)
    (compound : ∀ value, value ∈ nowOthers ↔
      value = item ∧ item.scalarKey? = none ∧ item.isFloat = false ∨ value ∈ others) :
    Knows nowSeen nowOthers (item :: kept) where
  scalar key := by rw [scalar, knows.scalar, List.exists_mem_cons_iff]
  compound value := by
    rw [compound, knows.compound, List.mem_cons]
    constructor
    · rintro (⟨rfl, own⟩ | ⟨member, own⟩)
      · exact ⟨.inl rfl, own⟩
      · exact ⟨.inr member, own⟩
    · rintro ⟨rfl | member, own⟩
      · exact .inl ⟨rfl, own⟩
      · exact .inr ⟨member, own⟩

/-- With what is known of the values kept, the search keeps what a comparison with each of them
keeps. -/
theorem dedup_from_eq (knows : Knows seen others kept) (items : List Value) :
    kept.reverse ++ dedupFrom seen others items =
      List.eraseDupsBy.loop (fun item kept => kept.equal item) items kept := by
  fun_induction dedupFrom seen others items generalizing kept with
  | case1 => simp [List.eraseDupsBy.loop]
  | case2 seen others item rest key scalar known ih =>
      rw [List.eraseDupsBy.loop, knows.scalar_repeated scalar, known]
      exact ih knows
  | case3 seen others item rest key scalar unknown ih =>
      rw [List.eraseDupsBy.loop, knows.scalar_repeated scalar, eq_false_of_ne_true unknown]
      simpa using ih (knows.keep (by simp [scalar, eq_comm]) (by simp [scalar]))
  | case4 seen others item rest compound float ih =>
      rw [List.eraseDupsBy.loop, knows.compound_repeated compound, float]
      simpa using ih (knows.keep (by simp [compound]) (by simp [float]))
  | case5 seen others item rest compound single known ih =>
      rw [List.eraseDupsBy.loop, knows.compound_repeated compound, known,
        eq_false_of_ne_true single]
      exact ih knows
  | case6 seen others item rest compound single unknown ih =>
      have alone := eq_false_of_ne_true single
      rw [List.eraseDupsBy.loop, knows.compound_repeated compound, eq_false_of_ne_true unknown,
        alone]
      simpa using ih (knows.keep (by simp [compound]) (by simp [compound, alone, or_comm]))

end

theorem dedup_eq_distinct (items : List Value) : dedup items = distinct items := by
  have nothing : Knows [] [] [] := ⟨by simp, by simp⟩
  exact dedup_from_eq nothing items

def keepUnequal (kept : List Value) (item : Value) : List Value :=
  if ∃ earlier ∈ kept, item.equal earlier = true then kept else kept ++ [item]

/-- Looking scalars up by their keys and comparing the other values among themselves keeps what a
search from left to right keeps that compares every item with all that were kept before it. -/
theorem dedup_eq_search (items : List Value) : dedup items = items.foldl keepUnequal [] := by
  rw [dedup_eq_distinct]
  induction items using List.reverseRecOn with
  | nil => rfl
  | append_singleton items item ih =>
      rw [distinct_concat, List.foldl_append, ← ih]
      simp only [List.foldl_cons, List.foldl_nil, keepUnequal, List.any_eq_true, item.equal_comm]

/-- Zeros of either sign are equal, what is not a number is kept each time, and an integer equals
neither a number with a point nor an array that holds it. -/
example :
    let zero (negative : Bool) : Value := .float (Binary.zero negative)
    dedup [zero true, zero false, .float .nan, .float .nan, .int 0, .array [.int 0],
        .array [.int 0], .array [.float .nan], .array [.float .nan]] =
      [zero true, .float .nan, .float .nan, .int 0, .array [.int 0], .array [.float .nan],
        .array [.float .nan]] := by
  rfl

end Value
end RequestDispatch
