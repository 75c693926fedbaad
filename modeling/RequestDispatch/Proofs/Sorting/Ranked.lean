import Mathlib.Data.List.Induction
import Mathlib.Data.List.Nodup
import Mathlib.Order.Lattice

/-!
Lists in the order of a rank, the greatest first. Such a list is determined by what it holds of each
rank (`eq_of_ranked`), and sorting does not disturb the order of items with one rank
(`filter_mergeSort`). So an item that is put at the end before the list is sorted again comes to
stand behind those of its rank and of greater ones (`mergeSort_concat`), and sorting after each item
comes to the same as sorting once (`foldl_mergeSort`). What is found first in the sorted list is
what the earliest of the items with the greatest rank has (`findSome_mergeSort`).
-/

namespace RequestDispatch

variable {α : Type}

/-- Sorting leaves items in their order which the test of two items does not tell apart. -/
theorem filter_mergeSort {le : α → α → Bool}
    (trans : ∀ first second third, le first second = true → le second third = true →
      le first third = true)
    (total : ∀ first second, (le first second || le second first) = true) {test : α → Bool}
    (alike : ∀ first second, test first = true → test second = true → le first second = true)
    (items : List α) : (items.mergeSort le).filter test = items.filter test := by
  have sorted : (items.filter test).Pairwise fun first second => le first second = true := by
    apply List.pairwise_of_forall_mem_list
    intro first member second other
    exact alike first second (List.mem_filter.1 member).2 (List.mem_filter.1 other).2
  have within : (items.filter test).Sublist (items.mergeSort le) :=
    List.sublist_mergeSort trans total sorted List.filter_sublist
  have inside := within.filter test
  rw [List.filter_filter] at inside
  symm
  apply List.Sublist.eq_of_length
  · simpa using inside
  · exact ((List.mergeSort_perm items le).filter _).length_eq.symm

variable {ρ : Type} [LinearOrder ρ] {rank : α → ρ}

/-- Two lists in the order of a rank are the same if they hold the same of each rank. -/
theorem eq_of_ranked {items others : List α}
    (sorted : items.Pairwise fun first second => rank second ≤ rank first)
    (alsoSorted : others.Pairwise fun first second => rank second ≤ rank first)
    (same : ∀ value, (items.filter fun item => rank item = value) =
      others.filter fun item => rank item = value) : items = others := by
  induction items generalizing others with
  | nil =>
      cases others with
      | nil => rfl
      | cons other others =>
          have missing := same (rank other)
          simp at missing
  | cons item items ih =>
      cases others with
      | nil =>
          have missing := same (rank item)
          simp at missing
      | cons other others =>
          rw [List.pairwise_cons] at sorted alsoSorted
          -- Each of the two heads occurs in the other list, so they have one rank.
          have shared (value : ρ) (member : α) :
              (member ∈ item :: items ∧ rank member = value) ↔
                (member ∈ other :: others ∧ rank member = value) := by
            have members := congrArg (member ∈ ·) (same value)
            simpa only [List.mem_filter, decide_eq_true_eq, eq_iff_iff] using members
          have below : rank item ≤ rank other := by
            rcases List.mem_cons.1 ((shared (rank item) item).1 ⟨List.mem_cons_self, rfl⟩).1 with
              rfl | later
            · exact le_refl _
            · exact alsoSorted.1 item later
          have above : rank other ≤ rank item := by
            rcases List.mem_cons.1 ((shared (rank other) other).2 ⟨List.mem_cons_self, rfl⟩).1 with
              rfl | later
            · exact le_refl _
            · exact sorted.1 other later
          have equal := le_antisymm below above
          have heads := same (rank item)
          simp only [List.filter_cons, equal, decide_true, if_true, List.cons.injEq] at heads
          obtain ⟨rfl, -⟩ := heads
          have behind : items = others := by
            apply ih sorted.2 alsoSorted.2
            intro value
            have together := same value
            simp only [List.filter_cons] at together
            split at together
            · exact (List.cons.inj together).2
            · exact together
          rw [behind]

def notBelow (rank : α → ρ) (first second : α) : Bool := decide (rank second ≤ rank first)

theorem notBelow_trans (first second third : α) (one : notBelow rank first second = true)
    (two : notBelow rank second third = true) : notBelow rank first third = true := by
  simp only [notBelow, decide_eq_true_eq] at one two ⊢
  exact le_trans two one

theorem notBelow_total (first second : α) :
    (notBelow rank first second || notBelow rank second first) = true := by
  simp only [notBelow, Bool.or_eq_true, decide_eq_true_eq]
  exact le_total _ _

theorem sorted_mergeSort (items : List α) :
    (items.mergeSort (notBelow rank)).Pairwise fun first second => rank second ≤ rank first := by
  have inOrder := List.pairwise_mergeSort (@notBelow_trans _ _ _ rank) notBelow_total items
  simpa only [notBelow, decide_eq_true_eq] using inOrder

theorem same_rank_mergeSort (items : List α) (value : ρ) :
    ((items.mergeSort (notBelow rank)).filter fun item => rank item = value) =
      items.filter fun item => rank item = value := by
  apply filter_mergeSort notBelow_trans notBelow_total
  intro first second one two
  rw [decide_eq_true_eq] at one two
  simp only [notBelow, one, two, le_refl, decide_true]

/-- An item that is put at the end before sorting comes behind those that are not below it. -/
theorem mergeSort_concat {front back : List α} {item : α}
    (sorted : (front ++ back).Pairwise fun first second => rank second ≤ rank first)
    (before : ∀ other ∈ front, rank item ≤ rank other)
    (behind : ∀ other ∈ back, rank other < rank item) :
    (front ++ back ++ [item]).mergeSort (notBelow rank) = front ++ item :: back := by
  have inserted : (front ++ item :: back).Pairwise
      fun first second => rank second ≤ rank first := by
    rw [List.pairwise_append] at sorted ⊢
    obtain ⟨inFront, inBack, between⟩ := sorted
    have after : ∀ other ∈ back, rank other ≤ rank item := fun other member =>
      (behind other member).le
    refine ⟨inFront, List.pairwise_cons.2 ⟨after, inBack⟩, ?_⟩
    intro first member second other
    rcases List.mem_cons.1 other with rfl | later
    · exact before first member
    · exact between first member second later
  apply eq_of_ranked (sorted_mergeSort _) inserted
  intro value
  rw [same_rank_mergeSort]
  simp only [List.filter_append, List.filter_cons, List.filter_nil, List.append_assoc]
  congr 1
  split
  · next equal =>
    -- What stands behind the item is of lower rank.
    have none : (back.filter fun other => decide (rank other = value)) = [] := by
      rw [List.filter_eq_nil_iff]
      intro other member
      rw [decide_eq_true_eq] at equal ⊢
      rw [← equal]
      exact (behind other member).ne
    rw [none]
    rfl
  · simp

/-- Sorting again after each item comes to the same as sorting once. -/
theorem foldl_mergeSort (items : List α) :
    items.foldl (fun sorted item => (sorted ++ [item]).mergeSort (notBelow rank)) [] =
      items.mergeSort (notBelow rank) := by
  induction items using List.reverseRecOn with
  | nil => simp
  | append_singleton items item ih =>
      rw [List.foldl_append, ih, List.foldl_cons, List.foldl_nil]
      apply eq_of_ranked (sorted_mergeSort _) (sorted_mergeSort _)
      intro value
      rw [same_rank_mergeSort, same_rank_mergeSort, List.filter_append, List.filter_append,
        same_rank_mergeSort]

theorem mergeSort_eq_of_same_rank {items others : List α}
    (same : ∀ value, (items.filter fun item => rank item = value) =
      others.filter fun item => rank item = value) :
    items.mergeSort (notBelow rank) = others.mergeSort (notBelow rank) := by
  apply eq_of_ranked (sorted_mergeSort _) (sorted_mergeSort _)
  intro value
  rw [same_rank_mergeSort, same_rank_mergeSort]
  exact same value

theorem mergeSort_eq_of_perm {items others : List α} (permuted : items.Perm others)
    (distinct : (items.map rank).Nodup) :
    items.mergeSort (notBelow rank) = others.mergeSort (notBelow rank) := by
  have sorted := (List.mergeSort_perm items (notBelow rank)).trans
    (permuted.trans (List.mergeSort_perm others (notBelow rank)).symm)
  apply sorted.eq_of_pairwise _ (sorted_mergeSort _) (sorted_mergeSort _)
  intro first second member other below above
  rw [List.mem_mergeSort] at member other
  exact List.inj_on_of_nodup_map distinct member (permuted.mem_iff.2 other)
    (le_antisymm above below)

theorem parted_of_same_rank {items front back : List α} {item : α}
    (same : (items.filter fun other => rank other = rank item) =
      (front ++ item :: back).filter fun other => rank other = rank item) :
    ∃ before behind, items = before ++ item :: behind ∧
      ∀ other ∈ before, rank other = rank item → other ∈ front := by
  rw [List.filter_append, List.filter_cons_of_pos (by simp)] at same
  obtain ⟨start, rest, rfl, ofStart, ofRest⟩ := List.filter_eq_append_iff.1 same
  obtain ⟨between, behind, rfl, lower, -, -⟩ := List.filter_eq_cons_iff.1 ofRest
  refine ⟨start ++ between, behind, by simp, ?_⟩
  intro other member equal
  rcases List.mem_append.1 member with early | late
  · have kept : other ∈ start.filter fun other => rank other = rank item := by
      simpa using ⟨early, equal⟩
    rw [ofStart] at kept
    exact (List.mem_filter.1 kept).1
  · exact absurd (by simpa using equal) (lower other late)

/-- What is found first in the sorted list is what an item has before which only items of lower rank
have something, and behind which none of greater rank has. -/
theorem findSome_mergeSort {β : Type} {found : α → Option β} {items : List α} {value : β} :
    (items.mergeSort (notBelow rank)).findSome? found = some value ↔
      ∃ front item back, items = front ++ item :: back ∧ found item = some value ∧
        (∀ other ∈ front, found other ≠ none → rank other < rank item) ∧
        ∀ other ∈ back, found other ≠ none → rank other ≤ rank item := by
  rw [List.findSome?_eq_some_iff]
  constructor
  · intro ⟨above, item, below, parted, here, nothing⟩
    have same := @same_rank_mergeSort _ _ _ rank items (rank item)
    rw [parted] at same
    obtain ⟨front, back, rfl, early⟩ := parted_of_same_rank same.symm
    have sorted := @sorted_mergeSort _ _ _ rank (front ++ item :: back)
    rw [parted, List.pairwise_append, List.pairwise_cons] at sorted
    have most : ∀ other ∈ front ++ item :: back, found other ≠ none →
        rank other ≤ rank item := by
      intro other member has
      rw [← List.mem_mergeSort, parted, List.mem_append,
        List.mem_cons] at member
      rcases member with before | rfl | behind
      · exact absurd (nothing other before) has
      · exact le_refl _
      · exact sorted.2.1.1 other behind
    refine ⟨front, item, back, rfl, here, ?_, ?_⟩
    · intro other member has
      apply lt_of_le_of_ne (most other (List.mem_append_left _ member) has)
      intro equal
      exact has (nothing other (early other member equal))
    · intro other member has
      exact most other (List.mem_append_right _ (List.mem_cons_of_mem _ member)) has
  · intro ⟨front, item, back, parted, here, lower, most⟩
    have same := @same_rank_mergeSort _ _ _ rank items (rank item)
    rw [parted] at same
    obtain ⟨above, below, order, early⟩ := parted_of_same_rank same
    have sorted := @sorted_mergeSort _ _ _ rank items
    rw [parted, order, List.pairwise_append] at sorted
    refine ⟨above, item, below, by rw [parted, order], here, ?_⟩
    intro other member
    by_contra has
    have high : rank item ≤ rank other := sorted.2.2 other member item List.mem_cons_self
    have listed : other ∈ front ++ item :: back := by
      rw [← List.mem_mergeSort, order]
      exact List.mem_append_left _ member
    have low : rank other ≤ rank item := by
      rw [List.mem_append, List.mem_cons] at listed
      rcases listed with before | rfl | behind
      · exact (lower other before has).le
      · exact le_refl _
      · exact most other behind has
    have equal := le_antisymm low high
    exact (lower other (early other member equal) has).ne equal

end RequestDispatch
