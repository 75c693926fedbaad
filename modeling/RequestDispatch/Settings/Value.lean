import RequestDispatch.Entries
import RequestDispatch.Number.Integer
import RequestDispatch.Text.Blank
import RequestDispatch.Text.Casing
import RequestDispatch.Text.Split

/-!
Values of settings, and how they are read where a text, a number, a truth value or a list of texts
is wanted. A value of another shape is not wanted and counts as none.
-/

namespace RequestDispatch

inductive Setting where
  | text (content : String)
  | int (value : Int64)
  | float (value : Double)
  | bool (value : Bool)
  | list (items : List Setting)
  | table (entries : List (String × Setting))

namespace Setting

instance : Inhabited Setting := ⟨.bool false⟩

def content? : Setting → Option String
  | .text content => some content
  | _ => none

theorem eq_text_of_content {value : Setting} {content : String}
    (held : value.content? = some content) : value = .text content := by
  cases value <;> cases held
  rfl

def text? : Setting → Option String
  | .text content => some content
  | .int value => some (toString value.toInt)
  | .float value => some value.text
  | .bool value => some (if value then "true" else "false")
  | _ => none

/-- An integer, or a text that is one but for blanks around it. -/
def int? : Setting → Option Int64
  | .int value => some value
  | .text content =>
    (Integer.readWithin? (-0x8000000000000000) 0x7FFFFFFFFFFFFFFF
      (Text.trim content).toList).map Int64.ofInt
  | _ => none

def float? : Setting → Option Double
  | .float value => some value
  | .int value => some (Binary.ofInt value.toInt)
  | .text content => Binary.read? (Text.trim content).toList
  | _ => none

/-- A truth value, or a word that stands for one. -/
def bool? : Setting → Option Bool
  | .bool value => some value
  | .text content =>
    let word := Text.lower (Text.trim content)
    if ["true", "yes", "on", "1"].contains word then some true
    else if ["false", "no", "off", "0"].contains word then some false
    else none
  | _ => none

def splitCommas (content : String) : List String :=
  ((Text.splitOn ',' content.toList).map fun piece => Text.trim (String.ofList piece)).filter
    fun piece => !piece.isEmpty

/-- The texts of the scalars of a list, or the pieces of a text between commas. -/
def texts? : Setting → Option (List String)
  | .list items => some (items.filterMap text?)
  | .text content => some (splitCommas content)
  | _ => none

end Setting
end RequestDispatch
