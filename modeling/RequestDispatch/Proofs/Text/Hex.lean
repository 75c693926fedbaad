import RequestDispatch.Text.Hex
import Mathlib.Tactic.SplitIfs

/-!
Hexadecimal digits as characters and as numbers.
-/

namespace RequestDispatch
namespace Text

theorem hex_value_lt {digit : Char} {value : Nat} (read : hexValue? digit = some value) :
    value < 16 := by
  unfold hexValue? at read
  simp only [Char.le_def, UInt32.le_iff_toNat_le] at read
  split_ifs at read with decimal lower upper <;>
    simp only [Option.some.injEq] at read <;> subst read
  · have bound : digit.toNat ≤ '9'.toNat := decimal.2
    simp at bound ⊢
    omega
  · have bound : digit.toNat ≤ 'f'.toNat := lower.2
    simp at bound ⊢
    omega
  · have bound : digit.toNat ≤ 'F'.toNat := upper.2
    simp at bound ⊢
    omega

theorem hex_byte_eq_some {byte : UInt8} {high low : Char} :
    hexByte? high low = some byte ↔
      hexValue? high = some (byte.toNat / 16) ∧ hexValue? low = some (byte.toNat % 16) := by
  constructor
  · intro read
    simp only [hexByte?, Option.bind_eq_bind, Option.bind_eq_some_iff, Option.pure_def,
      Option.some.injEq] at read
    obtain ⟨first, highRead, second, lowRead, rfl⟩ := read
    have firstBound := hex_value_lt highRead
    have secondBound := hex_value_lt lowRead
    have value : (UInt8.ofNat (first * 16 + second)).toNat = first * 16 + second := by
      rw [UInt8.toNat_ofNat']
      omega
    rw [value, highRead, lowRead]
    constructor <;> congr 1 <;> omega
  · rintro ⟨highRead, lowRead⟩
    have whole : byte.toNat / 16 * 16 + byte.toNat % 16 = byte.toNat := by omega
    rw [hexByte?, highRead, lowRead]
    change some (UInt8.ofNat (byte.toNat / 16 * 16 + byte.toNat % 16)) = some byte
    rw [whole, UInt8.ofNat_toNat]

theorem is_alphanum_iff {character : Char} :
    character.isAlphanum = true ↔
      (('A' ≤ character ∧ character ≤ 'Z') ∨ ('a' ≤ character ∧ character ≤ 'z')) ∨
        '0' ≤ character ∧ character ≤ '9' := by
  change ((decide ('A' ≤ character ∧ character ≤ 'Z') ||
    (decide ('a' ≤ character) && decide (character ≤ 'z'))) ||
      (decide ('0' ≤ character) && decide (character ≤ '9'))) = true ↔ _
  simp only [Bool.or_eq_true, Bool.and_eq_true, decide_eq_true_eq]

theorem alphanum_bounds {character : Char} (alphanum : character.isAlphanum = true) :
    character.toNat < 0x80 ∧ character ≠ '/' ∧ character ≠ '%' := by
  rw [is_alphanum_iff] at alphanum
  refine ⟨?_, ?_, ?_⟩
  · have last : character.toNat ≤ 'z'.toNat := by
      rcases alphanum with (⟨-, upper⟩ | ⟨-, lower⟩) | ⟨-, decimal⟩
      · exact Nat.le_trans upper (by decide)
      · exact lower
      · exact Nat.le_trans decimal (by decide)
    exact Nat.lt_of_le_of_lt last (by decide)
  · rintro rfl
    exact absurd alphanum (by decide)
  · rintro rfl
    exact absurd alphanum (by decide)

theorem hex_digit_alphanum {digit : Char} {value : Nat} (read : hexValue? digit = some value) :
    digit.isAlphanum = true := by
  unfold hexValue? at read
  rw [is_alphanum_iff]
  split_ifs at read with decimal lower upper
  · exact .inr decimal
  · exact .inl (.inr ⟨lower.1, Nat.le_trans lower.2 (by decide)⟩)
  · exact .inl (.inl ⟨upper.1, Nat.le_trans upper.2 (by decide)⟩)

theorem hex_byte_digits {byte : UInt8} {high low : Char} (read : hexByte? high low = some byte) :
    high.isAlphanum = true ∧ low.isAlphanum = true := by
  simp only [hexByte?, Option.bind_eq_bind, Option.bind_eq_some_iff] at read
  obtain ⟨_, highRead, _, lowRead, -⟩ := read
  exact ⟨hex_digit_alphanum highRead, hex_digit_alphanum lowRead⟩

theorem upper_digit_value {digit : Nat} (bound : digit < 16) :
    hexValue? (Nat.digitChar digit).toUpper = some digit := by
  revert digit
  decide

theorem hex_byte_upper (byte : UInt8) :
    hexByte? (Nat.digitChar (byte.toNat / 16)).toUpper (Nat.digitChar (byte.toNat % 16)).toUpper =
      some byte := by
  have bound := byte.toNat_lt
  rw [hex_byte_eq_some]
  exact ⟨upper_digit_value (by omega), upper_digit_value (by omega)⟩

end Text
end RequestDispatch
