import Mathlib.Data.List.Induction
import Mathlib.Data.List.Nodup
import Mathlib.Data.String.Basic
import RequestDispatch.Entries

/-!
Finite maps with text keys. What is found under a key after a value was put under another
(`get_insert`), and what a map that is made of pairs holds: the last pair of each key
(`get_ofList`), and so all of them if no two have one key (`ofList_perm`).
-/

namespace RequestDispatch
namespace Entries

variable {α : Type}

theorem get_cons (entry : String × α) (rest : Entries α) (key : String) :
    get? (entry :: rest) key = if key = entry.1 then some entry.2 else rest.get? key := by
  rw [get?, List.lookup_cons]
  by_cases same : key = entry.1
  · rw [if_pos same, beq_iff_eq.2 same]
  · rw [if_neg same, beq_false_of_ne same]
    rfl

theorem get_insert (key other : String) (value : α) (entries : Entries α) :
    (entries.insert key value).get? other =
      if other = key then some value else entries.get? other := by
  induction entries with
  | nil => exact get_cons (key, value) [] other
  | cons entry rest ih =>
      rw [insert]
      split
      · exact get_cons (key, value) (entry :: rest) other
      · next equal =>
        rw [get_cons, get_cons, ← compare_eq_iff_eq.1 equal]
        split <;> rfl
      · next behind =>
        have differs : entry.1 ≠ key := (compare_gt_iff_gt.1 behind).ne
        rw [get_cons, get_cons, ih]
        by_cases found : other = entry.1
        · rw [if_pos found, if_pos found, if_neg (found ▸ differs)]
        · rw [if_neg found, if_neg found]

/-- Of pairs with the same key the last one is found. -/
theorem get_ofList (pairs : List (String × α)) (key : String) :
    (ofList pairs).get? key = (pairs.filter fun pair => pair.1 == key).getLast?.map Prod.snd := by
  induction pairs using List.reverseRecOn with
  | nil => rfl
  | append_singleton pairs pair ih =>
      rw [ofList, List.foldl_append]
      change (insert pair.1 pair.2 (ofList pairs)).get? key = _
      rw [get_insert, ih, List.filter_append]
      by_cases same : key = pair.1
      · simp [same]
      · simp [same, Ne.symm same]

theorem get_eq_none_iff {entries : Entries α} {key : String} :
    entries.get? key = none ↔ key ∉ entries.keys := by
  simp only [get?, keys, List.lookup_eq_none_iff, List.mem_map, not_exists, not_and, bne_iff_ne]
  constructor
  · intro differ entry member same
    exact differ entry member same.symm
  · intro absent entry member same
    exact absent entry member same.symm

theorem get_eq_some_iff {entries : Entries α} (distinct : entries.keys.Nodup) {key : String}
    {value : α} : entries.get? key = some value ↔ (key, value) ∈ entries := by
  induction entries with
  | nil => simp [get?]
  | cons entry rest ih =>
      rw [keys, List.map_cons, List.nodup_cons] at distinct
      rw [get_cons, List.mem_cons]
      split
      · next same =>
        subst same
        have elsewhere : (entry.1, value) ∉ rest := by
          intro member
          exact distinct.1 (List.mem_map.2 ⟨_, member, rfl⟩)
        simp [elsewhere, Prod.ext_iff, eq_comm]
      · next differs =>
        have apart : (key, value) ≠ entry := fun same => differs (congrArg Prod.fst same)
        simp only [apart, false_or]
        exact ih distinct.2

theorem mem_keys_insert {key other : String} {value : α} {entries : Entries α} :
    other ∈ (entries.insert key value).keys ↔ other = key ∨ other ∈ entries.keys := by
  rw [← not_iff_not, ← get_eq_none_iff, get_insert, not_or, ← get_eq_none_iff]
  by_cases same : other = key
  · simp [same]
  · simp [same]

theorem insert_ascending {entries : Entries α} (ascending : entries.keys.Pairwise (· < ·))
    (key : String) (value : α) : (entries.insert key value).keys.Pairwise (· < ·) := by
  induction entries with
  | nil => exact List.pairwise_singleton ..
  | cons entry rest ih =>
      obtain ⟨least, others⟩ := List.pairwise_cons.1 ascending
      rw [insert]
      split
      · next before =>
        have first := compare_lt_iff_lt.1 before
        refine List.pairwise_cons.2 ⟨?_, ascending⟩
        exact List.forall_mem_cons.2 ⟨first, fun other member => first.trans (least other member)⟩
      · next equal =>
        rw [compare_eq_iff_eq.1 equal]
        exact ascending
      · next behind =>
        refine List.pairwise_cons.2 ⟨?_, ih others⟩
        intro other member
        rcases mem_keys_insert.1 member with rfl | kept
        · exact compare_gt_iff_gt.1 behind
        · exact least other kept

theorem insert_perm {entries : Entries α} {key : String} (absent : key ∉ entries.keys)
    (value : α) : (entries.insert key value).Perm ((key, value) :: entries) := by
  induction entries with
  | nil => rfl
  | cons entry rest ih =>
      rw [keys, List.map_cons, List.mem_cons, not_or] at absent
      rw [insert]
      split
      · rfl
      · next equal => exact absurd (compare_eq_iff_eq.1 equal) absent.1
      · exact ((ih absent.2).cons entry).trans (List.Perm.swap _ _ _)

/-- A map that is made of pairs with distinct keys holds all of them. -/
theorem ofList_perm {pairs : List (String × α)} (distinct : (pairs.map Prod.fst).Nodup) :
    (ofList pairs).Perm pairs := by
  induction pairs using List.reverseRecOn with
  | nil => rfl
  | append_singleton pairs pair ih =>
      rw [List.map_append, List.nodup_append'] at distinct
      obtain ⟨inFront, -, apart⟩ := distinct
      have held := ih inFront
      have absent : pair.1 ∉ keys (ofList pairs) := by
        rw [keys, (held.map Prod.fst).mem_iff]
        intro member
        exact apart member (List.mem_singleton_self pair.1)
      rw [ofList, List.foldl_append]
      exact (insert_perm absent pair.2).trans
        ((held.cons pair).trans (List.perm_append_singleton pair pairs).symm)

end Entries
end RequestDispatch
