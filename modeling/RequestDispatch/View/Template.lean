import RequestDispatch.Json.Basic
import RequestDispatch.Number.Integer
import RequestDispatch.Text.Blank
import RequestDispatch.Text.Split

/-!
Templates: text with places for values, written as a dotted name between double braces. Texts are
escaped where a template asks for it. Truth values may stand in a place themselves, and one name
stands for the whole model.
-/

namespace RequestDispatch

/-- A piece of a template. A place holds the steps from the model down to a value, or shows the
model itself. -/
inductive TemplatePart where
  | literal (content : String)
  | place (steps : List String)
  | model
  deriving DecidableEq, Repr

structure Template where
  parts : List TemplatePart

namespace Template

def isNameChar (character : Char) : Bool := character.isAlphanum || character = '_'

def isSpace (character : Char) : Bool := [' ', '\t', '\r', '\n'].contains character

def readSteps? (written : List Char) : Option (List String) :=
  let steps := Text.splitOn '.' written
  let wellFormed := steps.all fun step => !step.isEmpty && step.all isNameChar
  let startsWell := (steps.headD []).head?.any fun first => !first.isDigit
  if wellFormed && startsWell then some (steps.map String.ofList) else none

def truthWords : List (String × String) :=
  [("true", "true"), ("false", "false"), ("True", "true"), ("False", "false")]

def modelName : String := "__tera_context"

/-- What is written between the braces of a place. A word for a truth value stands for itself, and
nothing may go on from it. The word for a negation is a name only where no blank follows it. -/
def readPlace? (written : List Char) : Option TemplatePart :=
  let begun := written.dropWhile isSpace
  let content := Text.trimBoth isSpace written
  match truthWords.find? fun word => word.1.toList.isPrefixOf content with
  | some (word, shown) => if content = word.toList then some (.literal shown) else none
  | none =>
    if content = modelName.toList then some .model
    else if content = "not".toList && begun ≠ content then none
    else (readSteps? content).map .place

def prepend (gathered : List Char) (parts : List TemplatePart) : List TemplatePart :=
  if gathered.isEmpty then parts else .literal (String.ofList gathered.reverse) :: parts

/-- Reads the parts of a template. What has been gathered stands in reverse; it belongs to a place
if one has been opened. Only places are known: any other tag, and a place that is not closed or
holds no dotted name, is refused. -/
def readParts (opened : Bool) (gathered : List Char) : List Char → Option (List TemplatePart)
  | '\x7d' :: '\x7d' :: rest =>
    if opened then do
      let place ← readPlace? gathered.reverse
      let parts ← readParts false [] rest
      return place :: parts
    else readParts false ('\x7d' :: '\x7d' :: gathered) rest
  | '\x7b' :: '\x7b' :: rest =>
    if opened then none else (readParts true [] rest).map (prepend gathered)
  | '\x7b' :: '%' :: rest =>
    if opened then readParts true ('%' :: '\x7b' :: gathered) rest else none
  | character :: rest => readParts opened (character :: gathered) rest
  | [] => if opened then none else some (prepend gathered [])

def parse? (text : String) : Option Template := (readParts false [] text.toList).map Template.mk

def escapeChar : Char → List Char
  | '&' => ['&', 'a', 'm', 'p', ';']
  | '<' => ['&', 'l', 't', ';']
  | '>' => ['&', 'g', 't', ';']
  | '"' => ['&', 'q', 'u', 'o', 't', ';']
  | '\x27' => ['&', '#', 'x', '2', '7', ';']
  | '/' => ['&', '#', 'x', '2', 'F', ';']
  | character => [character]

def escape (text : String) : String := String.ofList (text.toList.flatMap escapeChar)

/-- The number of an element, written without zeros that could be left out. -/
def readIndex? (step : String) : Option Nat :=
  if step.startsWith "0" && step ≠ "0" then none else Integer.readDigits? step.toList

def follow (value : Json) (step : String) : Option Json :=
  match value with
  | .object fields => fields.lookup step
  | .array items => (readIndex? step).bind fun index => items[index]?
  | _ => none

def find? (model : Json) (steps : List String) : Option Json :=
  steps.foldlM follow model

mutual

def display : Json → String
  | .null => ""
  | .bool value => if value then "true" else "false"
  | .int value => toString value
  | .float value => value.text
  | .text value => value
  | .array items => "[" ++ ", ".intercalate (displayItems items) ++ "]"
  | .object _ => "[object]"

def displayItems : List Json → List String
  | [] => []
  | item :: rest => display item :: displayItems rest

end

/-- The output for a value; only a text is escaped, and only as a whole. -/
def output (escaping : Bool) : Json → String
  | .text value => if escaping then escape value else value
  | value => display value

/-- Fills the places of a template. A place for which the model has no value is reported. The whole
model is never escaped. -/
def fill (template : Template) (escaping : Bool) (model : Json) : Except String String := do
  let pieces ← template.parts.mapM fun part =>
    match part with
    | .literal content => .ok content
    | .model => .ok (model.indented 0)
    | .place steps =>
      match find? model steps with
      | some value => .ok (output escaping value)
      | none => .error (".".intercalate steps)
  return String.join pieces

end Template
end RequestDispatch
