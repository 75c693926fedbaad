import RequestDispatch.Proofs.Sorting.Renaming
import RequestDispatch.Value.Collection
import Mathlib.Data.String.Basic
import Mathlib.Order.WithBot

/-!
Where the natural order is an order. Among integers, among numbers without what is not a number, and
among values that are compared by their text, with null before all others, collections of every
standard kind can be built.
-/

namespace RequestDispatch

open Sorting

theorem consistent_of_key {α γ : Type} [LinearOrder γ] {less : α → α → Bool} (key : α → γ)
    (same : ∀ first second, less first second = true ↔ key first < key second) :
    Consistent less := by
  have notAfter (first second : α) : NotAfter less first second ↔ key first ≤ key second := by
    rw [NotAfter, ← Bool.not_eq_true, same, not_lt]
  constructor
  · intro first second before
    exact (notAfter first second).2 ((same first second).1 before).le
  · intro first second third firstBound secondBound
    rw [notAfter] at firstBound secondBound ⊢
    exact firstBound.trans secondBound

namespace Value

inductive IsInteger : Value → Prop
  | null : IsInteger .null
  | int (value : Int64) : IsInteger (.int value)

inductive IsWord : Value → Prop
  | null : IsWord .null
  | bool (value : Bool) : IsWord (.bool value)
  | char (value : Char) : IsWord (.char value)
  | text (value : String) : IsWord (.text value)
  | enumeration (type : TypeKey) (variant : String) : IsWord (.enumeration type variant)

/-- A floating number, or null. -/
inductive IsNumber : Value → Prop
  | null : IsNumber .null
  | float {value : Double} : value ≠ .nan → IsNumber (.float value)

def integerKey : Value → WithBot Int
  | .int value => value.toInt
  | _ => ⊥

def wordKey : Value → WithBot String
  | .null => ⊥
  | value => value.display

def numberKey : Value → WithBot Int
  | .float value => value.signedRank?.elim ⊥ WithBot.some
  | _ => ⊥

/-- Items that the natural order puts in order. -/
def Orderable (items : List Value) : Prop :=
  Consistent (renamedTest (Subtype.val : {item // item ∈ items} → Value) naturallyBefore)

theorem Orderable.sorted {items : List Value} (orderable : Orderable items) :
    ∃ sorted, sortNatural? items = some sorted := by
  have member : ∀ item ∈ items, item ∈ items := fun _ member => member
  obtain ⟨sorted, found, -⟩ := stableSort?_succeeds_within naturallyBefore member orderable
  exact ⟨sorted, found⟩

/-- Where every item has a property the natural order need only be consistent on it. -/
theorem orderable_of_consistent {keeps : Value → Prop} {items : List Value}
    (consistent : Consistent (renamedTest (Subtype.val : {item // keeps item} → Value)
      naturallyBefore))
    (kept : ∀ item ∈ items, keeps item) : Orderable items where
  asymm first second := consistent.asymm ⟨first, kept _ first.2⟩ ⟨second, kept _ second.2⟩
  trans first second third :=
    consistent.trans ⟨first, kept _ first.2⟩ ⟨second, kept _ second.2⟩ ⟨third, kept _ third.2⟩

theorem integers_consistent :
    Consistent (renamedTest (Subtype.val : {item // IsInteger item} → Value) naturallyBefore) := by
  apply consistent_of_key fun item => item.val.integerKey
  rintro ⟨left, leftInteger⟩ ⟨right, rightInteger⟩
  cases leftInteger <;> cases rightInteger <;>
    simp [renamedTest, naturallyBefore, naturalOrder, integerKey, asFloat?, compare_lt_iff_lt]

theorem words_consistent :
    Consistent (renamedTest (Subtype.val : {item // IsWord item} → Value) naturallyBefore) := by
  apply consistent_of_key fun item => item.val.wordKey
  rintro ⟨left, leftWord⟩ ⟨right, rightWord⟩
  cases leftWord <;> cases rightWord <;>
    simp [renamedTest, naturallyBefore, naturalOrder, wordKey, asFloat?, compare_lt_iff_lt]

theorem rank_of_number {value : Double} (number : value ≠ .nan) :
    ∃ rank, value.signedRank? = some rank := by
  cases value with
  | nan => exact absurd rfl number
  | number => exact ⟨_, rfl⟩

theorem numbers_consistent :
    Consistent (renamedTest (Subtype.val : {item // IsNumber item} → Value) naturallyBefore) := by
  apply consistent_of_key fun item => item.val.numberKey
  rintro ⟨left, leftNumber⟩ ⟨right, rightNumber⟩
  cases leftNumber with
  | null =>
      cases rightNumber with
      | null => simp [renamedTest, naturallyBefore, naturalOrder, numberKey, asFloat?]
      | float number =>
          obtain ⟨rank, ranked⟩ := rank_of_number number
          simp [renamedTest, naturallyBefore, naturalOrder, numberKey, asFloat?, ranked]
  | float number =>
      obtain ⟨rank, ranked⟩ := rank_of_number number
      cases rightNumber with
      | null => simp [renamedTest, naturallyBefore, naturalOrder, numberKey, asFloat?, ranked]
      | float other =>
          obtain ⟨otherRank, otherRanked⟩ := rank_of_number other
          simp [renamedTest, naturallyBefore, naturalOrder, numberKey, asFloat?, ranked,
            otherRanked, Binary.compare?, compare_lt_iff_lt]

theorem dedup_from_sublist (seen : List ScalarKey) (others items : List Value) :
    (dedupFrom seen others items).Sublist items := by
  fun_induction dedupFrom seen others items with
  | case1 => exact .slnil
  | case2 _ _ item _ _ _ _ ih => exact .cons item ih
  | case3 _ _ item _ _ _ _ ih => exact .cons_cons item ih
  | case4 _ _ item _ _ _ ih => exact .cons_cons item ih
  | case5 _ _ item _ _ _ _ ih => exact .cons item ih
  | case6 _ _ item _ _ _ _ ih => exact .cons_cons item ih

theorem orderable_of_alike {items : List Value}
    (alike : (∀ item ∈ items, item.IsInteger) ∨ (∀ item ∈ items, item.IsNumber) ∨
      ∀ item ∈ items, item.IsWord) : Orderable items := by
  rcases alike with integers | numbers | words
  · exact orderable_of_consistent integers_consistent integers
  · exact orderable_of_consistent numbers_consistent numbers
  · exact orderable_of_consistent words_consistent words

theorem collect_items (kind : CollectionKind) {items : List Value}
    (orderable : kind.isSorted = true → Orderable items) :
    ∃ held, collect? kind items = some (.collection kind.concrete held) ∧
      ∀ item ∈ held, item ∈ items := by
  have given : ∀ item ∈ if kind.concrete.isUnique then dedup items else items, item ∈ items := by
    intro item member
    split at member
    · exact (dedup_from_sublist [] [] items).subset member
    · exact member
  have same : kind.concrete.isSorted = kind.isSorted := by
    rw [CollectionKind.isSorted, CollectionKind.concrete_concrete, CollectionKind.isSorted]
  simp only [collect?]
  generalize (if kind.concrete.isUnique then dedup items else items) = unique at given
  by_cases asked : kind.concrete.isSorted = true
  · obtain ⟨sorted, found⟩ := (orderable_of_consistent (orderable (same ▸ asked)) given).sorted
    refine ⟨sorted, by rw [if_pos asked, found, Option.map_some], ?_⟩
    intro item member
    exact given item ((stableSort?_perm found).mem_iff.1 member)
  · exact ⟨unique, by rw [if_neg asked, Option.map_some], given⟩

end Value
end RequestDispatch
