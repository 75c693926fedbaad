import Mathlib.Data.List.Basic
import RequestDispatch.Text.Casing

/-!
Lowered and raised characters. Every character has a lower and an upper case, which is the character
itself or lies beyond the signs before the letters (`lower_char_beyond_signs`,
`upper_char_beyond_signs`). What does not tell the two small sigmas apart sees a text lowered
character by character (`flatMap_lowerFrom`).
-/

namespace RequestDispatch
namespace Text

/-! Letters from A to Z. -/

/-- Lowering changes nothing, or it takes a letter from A to Z to one from a to z. -/
theorem lower_letter (character : Char) :
    character.toLower = character ∨
      65 ≤ character.toNat ∧ character.toNat ≤ 90 ∧
        character.toLower.toNat = character.toNat + 32 := by
  by_cases upper : character.val ≥ 'A'.val ∧ character.val ≤ 'Z'.val
  · right
    have raised : character.toLower.val = character.val + 32 := congrArg Char.val (dif_pos upper)
    simp only [ge_iff_le, UInt32.le_iff_toNat_le] at upper
    have low : 65 ≤ character.toNat := upper.1
    have high : character.toNat ≤ 90 := upper.2
    have small : character.val.toNat + 32 < 2 ^ 32 := by
      have bound : character.val.toNat ≤ 90 := high
      omega
    refine ⟨low, high, ?_⟩
    exact (congrArg UInt32.toNat raised).trans
      ((UInt32.toNat_add character.val 32).trans (Nat.mod_eq_of_lt small))
  · exact .inl (dif_neg upper)

theorem lower_lower (character : Char) : character.toLower.toLower = character.toLower := by
  rcases lower_letter character with same | ⟨low, high, lowered⟩
  · rw [same, same]
  · rcases lower_letter character.toLower with same | ⟨-, upper, -⟩
    · exact same
    · omega

theorem upper_letter (character : Char) :
    character.toUpper = character ∨
      65 ≤ character.toUpper.toNat ∧ character.toUpper.toNat ≤ 90 := by
  by_cases lower : 'a'.val ≤ character.val ∧ character.val ≤ 'z'.val
  · right
    have capital : character.toUpper = ⟨_, _⟩ := dif_pos lower
    have raised : character.toUpper.val = character.val + ('A'.val - 'a'.val) := by
      rw [capital]
    have numbers : character.toUpper.toNat = (character.toNat + 4294967264) % 2 ^ 32 :=
      (congrArg UInt32.toNat raised).trans (UInt32.toNat_add character.val _)
    have low : 97 ≤ character.toNat := UInt32.le_iff_toNat_le.1 lower.1
    have high : character.toNat ≤ 122 := UInt32.le_iff_toNat_le.1 lower.2
    omega
  · exact .inl (dif_neg lower)

/-! Characters beyond ASCII. -/

def CaseRun.GivesLetters (run : CaseRun) : Prop :=
  0x41 ≤ run.first + run.shift ∧
    (run.last + run.shift < 0xD800 ∨
      0xDFFF < run.first + run.shift ∧ run.last + run.shift < 0x110000)

instance (run : CaseRun) : Decidable run.GivesLetters :=
  inferInstanceAs (Decidable (_ ∧ _))

theorem CaseRun.GivesLetters.beyond_signs {run : CaseRun} (letters : run.GivesLetters)
    {code : Nat} (held : run.holds code = true) :
    0x41 ≤ (Char.ofNat (code + run.shift).toNat).toNat := by
  simp only [CaseRun.holds, Bool.and_eq_true, decide_eq_true_eq] at held
  obtain ⟨low, range⟩ := letters
  have valid : (code + run.shift).toNat.isValidChar := by
    unfold Nat.isValidChar
    omega
  have same : (Char.ofNat (code + run.shift).toNat).toNat = (code + run.shift).toNat := by
    rw [Char.ofNat, dif_pos valid]
    rfl
  omega

section

variable {runs : List CaseRun} {expansions : List (Nat × List Nat)}

theorem mapCase_ne_nil (given : ∀ entry ∈ expansions, entry.2 ≠ []) (character : Char) :
    mapCase runs expansions character ≠ [] := by
  unfold mapCase
  split
  · next entry found =>
    simpa using given entry (List.mem_of_find?_eq_some found)
  · split <;> simp

theorem mapCase_beyond_signs (letters : ∀ run ∈ runs, run.GivesLetters)
    (expanded : ∀ entry ∈ expansions, ∀ code ∈ entry.2, 0x41 ≤ (Char.ofNat code).toNat)
    {character mapped : Char} (member : mapped ∈ mapCase runs expansions character) :
    mapped = character ∨ 0x41 ≤ mapped.toNat := by
  unfold mapCase at member
  split at member
  · next entry found =>
    obtain ⟨code, listed, rfl⟩ := List.mem_map.1 member
    exact .inr (expanded entry (List.mem_of_find?_eq_some found) code listed)
  · split at member
    · next run found =>
      rw [List.mem_singleton.1 member]
      have held := List.find?_some found
      exact .inr ((letters run (List.mem_of_find?_eq_some found)).beyond_signs held)
    · exact .inl (List.mem_singleton.1 member)

end

theorem lower_char_ne_nil (character : Char) : lowerChar character ≠ [] := by
  unfold lowerChar
  split
  · simp
  · exact mapCase_ne_nil (by decide +kernel) character

theorem upper_char_ne_nil (character : Char) : upperChar character ≠ [] := by
  unfold upperChar
  split
  · simp
  · exact mapCase_ne_nil (by decide +kernel) character

theorem lower_char_beyond_signs {character lowered : Char}
    (member : lowered ∈ lowerChar character) :
    lowered = character ∨ 0x41 ≤ lowered.toNat := by
  unfold lowerChar at member
  split at member
  · rw [List.mem_singleton.1 member]
    rcases lower_letter character with same | ⟨low, -, lowered⟩
    · exact .inl same
    · right
      omega
  · exact mapCase_beyond_signs (by decide +kernel) (by decide +kernel) member

theorem upper_char_beyond_signs {character raised : Char}
    (member : raised ∈ upperChar character) :
    raised = character ∨ 0x41 ≤ raised.toNat := by
  unfold upperChar at member
  split at member
  · rw [List.mem_singleton.1 member]
    exact (upper_letter character).imp id And.left
  · exact mapCase_beyond_signs (by decide +kernel) (by decide +kernel) member

/-! Texts. -/

/-- The form of a sigma is lost on what treats both forms alike. -/
theorem flatMap_lowerFrom {change : Char → List Char} (sigmas : change 'ς' = change 'σ')
    (before text : List Char) :
    (lowerFrom before text).flatMap change =
      text.flatMap fun character => (lowerChar character).flatMap change := by
  induction text generalizing before with
  | nil => rfl
  | cons character rest ih =>
      have one : (if character = 'Σ' then [if sigmaEndsWord before rest then 'ς' else 'σ']
          else lowerChar character).flatMap change = (lowerChar character).flatMap change := by
        split
        · next sigma =>
          have small : lowerChar 'Σ' = ['σ'] := by decide +kernel
          rw [sigma, small]
          split
          · exact congrArg (· ++ []) sigmas
          · rfl
        · rfl
      rw [lowerFrom, List.flatMap_append, one, ih, List.flatMap_cons]

/-- A text in which every character gives something is left as it is exactly if every character
gives itself. -/
theorem flatMap_eq_self_iff {change : Char → List Char} (given : ∀ character, change character ≠ [])
    (text : List Char) :
    text.flatMap change = text ↔ ∀ character ∈ text, change character = [character] := by
  have grows (rest : List Char) : rest.length ≤ (rest.flatMap change).length := by
    induction rest with
    | nil => exact Nat.le_refl 0
    | cons character rest ih =>
        have some := List.length_pos_iff.2 (given character)
        rw [List.flatMap_cons, List.length_append, List.length_cons]
        omega
  induction text with
  | nil => simp
  | cons character rest ih =>
      rw [List.flatMap_cons, List.forall_mem_cons]
      refine Iff.trans ?_ (and_congr_right fun _ => ih)
      constructor
      · intro same
        have lengths := congrArg List.length same
        rw [List.length_append, List.length_cons] at lengths
        have some := List.length_pos_iff.2 (given character)
        have behind := grows rest
        exact List.append_inj same (by rw [List.length_singleton]; omega)
      · rintro ⟨first, others⟩
        rw [first, others]
        rfl

end Text
end RequestDispatch
