import RequestDispatch.Proofs.Number.Integer
import RequestDispatch.Settings.Value

/-!
What the value of a setting is read as. Each reader takes the values of its own kind and the texts
in which one is written, and of every other value it makes nothing (`readings`).
-/

namespace RequestDispatch
namespace Setting

inductive Shown : Setting → String → Prop
  | text (content : String) : Shown (.text content) content
  | int (value : Int64) : Shown (.int value) (toString value.toInt)
  | float (value : Double) : Shown (.float value) value.text
  | yes : Shown (.bool true) "true"
  | no : Shown (.bool false) "false"

/-- The words that stand for a truth value. -/
def words (flag : Bool) : List String :=
  if flag then ["true", "yes", "on", "1"] else ["false", "no", "off", "0"]

theorem words_apart {word : String} (yes : word ∈ words true) : word ∉ words false := by
  simp only [words, if_true, List.mem_cons, List.not_mem_nil, or_false] at yes
  rcases yes with rfl | rfl | rfl | rfl <;> decide

theorem text_eq_some {value : Setting} {text : String} :
    value.text? = some text ↔ value.Shown text := by
  constructor
  · intro read
    cases value with
    | text => cases read; exact .text _
    | int => cases read; exact .int _
    | float => cases read; exact .float _
    | bool flag =>
        cases read
        cases flag with
        | true => exact .yes
        | false => exact .no
    | list => cases read
    | table => cases read
  · intro shown
    cases shown <;> rfl

theorem int_eq_some {value : Setting} {number : Int64} :
    value.int? = some number ↔ value = .int number ∨
      ∃ content, value = .text content ∧
        Integer.Denotes true (Text.trim content).toList number.toInt := by
  cases value with
  | int own => simp [int?]
  | text content =>
      simp only [int?, reduceCtorEq, false_or, Setting.text.injEq, exists_eq_left',
        Option.map_eq_some_iff, Integer.read_within_iff]
      constructor
      · rintro ⟨value, ⟨denotes, least, most⟩, rfl⟩
        rw [Int64.toInt_ofInt_of_le (by omega) (by omega)]
        exact denotes
      · intro denotes
        exact ⟨number.toInt, ⟨denotes, number.le_toInt, number.toInt_le⟩, Int64.ofInt_toInt number⟩
  | _ => simp [int?]

theorem float_eq_some {value : Setting} {number : Double} :
    value.float? = some number ↔ value = .float number ∨
      (∃ whole, value = .int whole ∧ number = Binary.ofInt whole.toInt) ∨
      ∃ content, value = .text content ∧
        Binary.read? (Text.trim content).toList = some number := by
  cases value <;> simp [float?, eq_comm]

theorem bool_eq_some {value : Setting} {flag : Bool} :
    value.bool? = some flag ↔ value = .bool flag ∨
      ∃ content, value = .text content ∧ Text.lower (Text.trim content) ∈ words flag := by
  cases value with
  | bool own => simp [bool?]
  | text content =>
      simp only [bool?, reduceCtorEq, false_or, Setting.text.injEq, exists_eq_left',
        List.contains_iff_mem]
      generalize Text.lower (Text.trim content) = word
      constructor
      · intro read
        split at read
        · next yes => cases read; exact yes
        · split at read
          · next no => cases read; exact no
          · cases read
      · intro member
        cases flag with
        | true => exact if_pos member
        | false => exact (if_neg fun yes => words_apart yes member).trans (if_pos member)
  | _ => simp [bool?]

theorem texts_eq_some {value : Setting} {texts : List String} :
    value.texts? = some texts ↔
      (∃ items, value = .list items ∧ texts = items.filterMap text?) ∨
        ∃ content, value = .text content ∧ texts = splitCommas content := by
  cases value <;> simp [texts?, eq_comm]

/-- What the readers take the value for. -/
structure Readings (value : Setting) : Prop where
  text : ∀ text, value.text? = some text ↔ value.Shown text
  int : ∀ number, value.int? = some number ↔ value = .int number ∨
    ∃ content, value = .text content ∧
      Integer.Denotes true (Text.trim content).toList number.toInt
  float : ∀ number, value.float? = some number ↔ value = .float number ∨
    (∃ whole, value = .int whole ∧ number = Binary.ofInt whole.toInt) ∨
    ∃ content, value = .text content ∧ Binary.read? (Text.trim content).toList = some number
  bool : ∀ flag, value.bool? = some flag ↔ value = .bool flag ∨
    ∃ content, value = .text content ∧ Text.lower (Text.trim content) ∈ words flag
  texts : ∀ texts, value.texts? = some texts ↔
    (∃ items, value = .list items ∧ texts = items.filterMap text?) ∨
      ∃ content, value = .text content ∧ texts = splitCommas content

theorem readings (value : Setting) : value.Readings where
  text _ := text_eq_some
  int _ := int_eq_some
  float _ := float_eq_some
  bool _ := bool_eq_some
  texts _ := texts_eq_some

end Setting
end RequestDispatch
