import Mathlib.Data.List.Induction
import RequestDispatch.Number.Integer
import RequestDispatch.Proofs.Text.Blank

/-!
Integers are read from the texts that denote them and from no others (`read_within_iff`). The text
that an integer is written as is one of them (`denotes_text`), and none of them holds a blank.
-/

namespace RequestDispatch

namespace Integer

/-- Decimal digits, at least one, and the number that they denote. -/
inductive Digits : List Char → Nat → Prop
  | single {digit : Char} : digit.isDigit = true → Digits [digit] (digit.toNat - 48)
  | concat {text : List Char} {value : Nat} {digit : Char} :
      Digits text value → digit.isDigit = true →
        Digits (text ++ [digit]) (10 * value + (digit.toNat - 48))

/-- Digits behind an optional sign. There is a minus sign only where numbers may be negative. -/
inductive Denotes (signed : Bool) : List Char → Int → Prop
  | bare {digits : List Char} {value : Nat} : Digits digits value → Denotes signed digits value
  | plus {digits : List Char} {value : Nat} :
      Digits digits value → Denotes signed ('+' :: digits) value
  | minus {digits : List Char} {value : Nat} :
      signed = true → Digits digits value → Denotes signed ('-' :: digits) (-value)

theorem digits_value_concat (text : List Char) (digit : Char) :
    Binary.digitsValue (text ++ [digit]) = 10 * Binary.digitsValue text + (digit.toNat - 48) := by
  rw [Binary.digitsValue, List.foldl_append, Nat.mul_comm]
  rfl

theorem read_digits_eq_some {text : List Char} {value : Nat} :
    readDigits? text = some value ↔
      (text ≠ [] ∧ ∀ digit ∈ text, digit.isDigit = true) ∧ Binary.digitsValue text = value := by
  rw [readDigits?]
  by_cases digits : text ≠ [] ∧ ∀ digit ∈ text, digit.isDigit = true
  · have read : (text.isEmpty || !text.all Char.isDigit) = false := by simpa using digits
    rw [read, if_neg Bool.false_ne_true, Option.some_inj]
    exact (and_iff_right digits).symm
  · have unread : (text.isEmpty || !text.all Char.isDigit) = true := by
      rw [← Bool.not_eq_false]
      simpa using digits
    simp only [unread, if_true, reduceCtorEq, false_iff]
    exact fun both => digits both.1

/-- Digits are read from the first to the last, so the induction is on the text from its end. -/
theorem read_digits_iff {text : List Char} {value : Nat} :
    readDigits? text = some value ↔ Digits text value := by
  rw [read_digits_eq_some]
  constructor
  · rintro ⟨⟨nonempty, all⟩, rfl⟩
    induction text using List.reverseRecOn with
    | nil => exact absurd rfl nonempty
    | append_singleton text digit ih =>
        rw [List.forall_mem_append] at all
        have last : digit.isDigit = true := all.2 digit List.mem_cons_self
        cases text with
        | nil => simpa [Binary.digitsValue] using Digits.single last
        | cons first rest =>
            rw [digits_value_concat]
            exact .concat (ih (by simp) all.1) last
  · intro digits
    induction digits with
    | single digit => exact ⟨⟨by simp, by simpa using digit⟩, by simp [Binary.digitsValue]⟩
    | concat _ digit ih =>
        refine ⟨⟨by simp, ?_⟩, by rw [digits_value_concat, ih.2]⟩
        rw [List.forall_mem_append]
        exact ⟨ih.1.2, by simpa using digit⟩

theorem Digits.isDigit {text : List Char} {value : Nat} (digits : Digits text value) :
    ∀ digit ∈ text, digit.isDigit = true :=
  (read_digits_eq_some.1 (read_digits_iff.2 digits)).1.2

theorem read_iff {signed : Bool} {text : List Char} {value : Int} :
    read? signed text = some value ↔ Denotes signed text value := by
  constructor
  · fun_cases read? signed text with
    | case1 digits =>
        intro read
        obtain ⟨number, held, rfl⟩ := Option.map_eq_some_iff.1 read
        exact .plus (read_digits_iff.1 held)
    | case2 digits admitted =>
        intro read
        obtain ⟨opposite, lifted, rfl⟩ := Option.map_eq_some_iff.1 read
        obtain ⟨number, held, same⟩ := Option.bind_eq_some_iff.1 lifted
        cases same
        exact .minus admitted (read_digits_iff.1 held)
    | case3 => exact fun read => nomatch read
    | case4 =>
        intro read
        obtain ⟨number, held, rfl⟩ := Option.map_eq_some_iff.1 read
        exact .bare (read_digits_iff.1 held)
  · intro denotes
    cases denotes with
    | bare held =>
        have unsigned : '+' ∉ text ∧ '-' ∉ text := by
          constructor <;> intro member <;> exact absurd (held.isDigit _ member) (by decide)
        fun_cases read? signed text with
        | case4 => rw [read_digits_iff.2 held]; rfl
        | _ => simp at unsigned
    | plus held =>
        rw [read?, read_digits_iff.2 held]
        rfl
    | minus admitted held =>
        rw [read?, if_pos admitted, read_digits_iff.2 held]
        rfl

theorem read_within_iff {least greatest : Int} {text : List Char} {value : Int} :
    readWithin? least greatest text = some value ↔
      Denotes (decide (least < 0)) text value ∧ least ≤ value ∧ value ≤ greatest := by
  rw [readWithin?, Option.filter_eq_some_iff, read_iff, Bool.and_eq_true, decide_eq_true_eq,
    decide_eq_true_eq]

theorem digits_value_eq (text : List Char) :
    Binary.digitsValue text = Nat.ofDigitChars 10 text 0 := by
  rw [Nat.ofDigitChars_eq_foldl, Binary.digitsValue]
  simp only [Nat.mul_comm]

theorem digits_of_number (value : Nat) : Digits (Nat.toDigits 10 value) value := by
  rw [← read_digits_iff, read_digits_eq_some, digits_value_eq, Nat.ofDigitChars_ten_toDigits]
  exact ⟨⟨Nat.toDigits_ne_nil, fun _ member =>
    Nat.isDigit_of_mem_toDigits (by decide) (by decide) member⟩, rfl⟩

theorem text_eq (value : Int) :
    (toString value).toList =
      if 0 ≤ value then Nat.toDigits 10 value.toNat else '-' :: Nat.toDigits 10 (-value).toNat := by
  rw [Int.toString_eq_repr, Int.repr_eq_if]
  split
  · exact Nat.toList_repr
  · rw [String.toList_append, Nat.toList_repr]
    rfl

/-- An integer is denoted by the text that it is written as, a negative one where a minus sign is
admitted. -/
theorem denotes_text {signed : Bool} {value : Int} (admitted : value < 0 → signed = true) :
    Denotes signed (toString value).toList value := by
  rw [text_eq]
  split
  · next nonnegative =>
    have digits : Denotes signed (Nat.toDigits 10 value.toNat) value.toNat :=
      .bare (digits_of_number value.toNat)
    rwa [Int.toNat_of_nonneg nonnegative] at digits
  · next negative =>
    have below : value < 0 := Int.not_le.1 negative
    have opposite : -(((-value).toNat : Nat) : Int) = value := by omega
    have digits := Denotes.minus (admitted below) (digits_of_number (-value).toNat)
    rwa [opposite] at digits

theorem isBlank_of_isDigit {character : Char} (digit : character.isDigit = true) :
    Text.isBlank character = false := by
  have bounds : 48 ≤ character.toNat ∧ character.toNat ≤ 57 := by
    simpa [Char.isDigit, UInt32.le_iff_toNat_le] using digit
  simp only [Text.isBlank, Bool.or_eq_false_iff, Bool.and_eq_false_iff, decide_eq_false_iff_not,
    beq_eq_false_iff_ne]
  omega

theorem Denotes.not_blank {signed : Bool} {text : List Char} {value : Int}
    (denotes : Denotes signed text value) : ∀ character ∈ text, Text.isBlank character = false := by
  have blankless {digits : List Char} {number : Nat} (held : Digits digits number) :
      ∀ character ∈ digits, Text.isBlank character = false :=
    fun character member => isBlank_of_isDigit (held.isDigit character member)
  cases denotes with
  | bare held => exact blankless held
  | plus held => exact List.forall_mem_cons.2 ⟨by decide, blankless held⟩
  | minus _ held => exact List.forall_mem_cons.2 ⟨by decide, blankless held⟩

end Integer
end RequestDispatch
