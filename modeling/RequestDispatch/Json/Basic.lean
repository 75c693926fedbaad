import RequestDispatch.Entries
import RequestDispatch.Number.Decimal
import RequestDispatch.Text.Quoted
import RequestDispatch.Value.Basic

/-!
JSON: the data of responses and of view models, and its texts: a compact one, and one with a line
for each item.
-/

namespace RequestDispatch

inductive Json where
  | null
  | bool (value : Bool)
  | int (value : Int)
  | float (value : Double)
  | text (value : String)
  | array (items : List Json)
  | object (fields : List (String × Json))

namespace Json

instance : Inhabited Json := ⟨.null⟩

def fourDigits (code : Nat) : List Char :=
  let digits := Text.hexDigits code
  List.replicate (4 - digits.length) '0' ++ digits

def escapeChar (character : Char) : List Char :=
  if character = '"' then ['\\', '"']
  else if character = '\\' then ['\\', '\\']
  else if character = '\n' then ['\\', 'n']
  else if character = '\r' then ['\\', 'r']
  else if character = '\t' then ['\\', 't']
  else if character = '\x08' then ['\\', 'b']
  else if character = '\x0c' then ['\\', 'f']
  else if character.toNat < 0x20 then ['\\', 'u'] ++ fourDigits character.toNat
  else [character]

def quote (text : String) : String :=
  String.ofList ('"' :: text.toList.flatMap escapeChar ++ ['"'])

/-- The digits of a number as JSON shows them: with a fraction between ten to the minus fifth and
ten to the sixteenth, and with a signed exponent outside. -/
def numberText (value : Binary.Digits) : String :=
  let written := Nat.toDigits 10 value.digits
  let point := (written.length : Int) + value.exponent
  if 0 ≤ value.exponent && point ≤ 16 then value.positional ++ ".0"
  else if -5 < point && point ≤ 16 then value.positional
  else
    let mantissa :=
      match written with
      | [] => []
      | [digit] => [digit]
      | digit :: rest => digit :: '.' :: rest
    let sign := if 0 < point then "+" else ""
    String.ofList mantissa ++ "e" ++ sign ++ toString (point - 1)

def floatText : Double → String
  | .nan => "null"
  | .number negative rank _ =>
    if rank = Layout.double.topRank then "null"
    else
      let magnitude :=
        if rank = 0 then "0.0" else numberText (Binary.shortest .even Layout.double rank)
      if negative then "-" ++ magnitude else magnitude

mutual

def compact : Json → String
  | .null => "null"
  | .bool value => if value then "true" else "false"
  | .int value => toString value
  | .float value => floatText value
  | .text value => quote value
  | .array items => "[" ++ ",".intercalate (compactItems items) ++ "]"
  | .object fields => "\x7b" ++ ",".intercalate (compactFields fields) ++ "\x7d"

def compactItems : List Json → List String
  | [] => []
  | item :: rest => compact item :: compactItems rest

def compactFields : List (String × Json) → List String
  | [] => []
  | (name, value) :: rest => (quote name ++ ":" ++ compact value) :: compactFields rest

end

def newLine (depth : Nat) : String := "\n" ++ "".pushn ' ' (2 * depth)

def bracketed (opening closing : String) (depth : Nat) (lines : List String) : String :=
  if lines.isEmpty then opening ++ closing
  else
    opening ++ newLine (depth + 1) ++ ("," ++ newLine (depth + 1)).intercalate lines ++
      newLine depth ++ closing

mutual

def indented (depth : Nat) : Json → String
  | .array items => bracketed "[" "]" depth (indentedItems (depth + 1) items)
  | .object fields => bracketed "\x7b" "\x7d" depth (indentedFields (depth + 1) fields)
  | other => compact other

def indentedItems (depth : Nat) : List Json → List String
  | [] => []
  | item :: rest => indented depth item :: indentedItems depth rest

def indentedFields (depth : Nat) : List (String × Json) → List String
  | [] => []
  | (name, value) :: rest =>
    (quote name ++ ": " ++ indented depth value) :: indentedFields depth rest

end

mutual

/-- The JSON of a value: objects are null, and the fields of a map are its texts in ascending
order, the last of equal ones. -/
def ofValue : Value → Json
  | .null => .null
  | .object _ => .null
  | .bool value => .bool value
  | .int value => .int value.toInt
  | .float value =>
    match value with
    | .nan => .null
    | .number negative rank bounded =>
      if rank = Layout.double.topRank then .null else .float (.number negative rank bounded)
  | .char value => .text (String.ofList [value])
  | .text value => .text value
  | .bytes value => .text (Text.decodeUtf8Lossy value)
  | .enumeration _ variant => .text variant
  | .array items => .array (ofItems items)
  | .collection _ items => .array (ofItems items)
  | .map entries => .object (ofEntries [] entries)

def ofItems : List Value → List Json
  | [] => []
  | item :: rest => ofValue item :: ofItems rest

def ofEntries (fields : Entries Json) : List (Value × Value) → Entries Json
  | [] => fields
  | (key, value) :: rest => ofEntries (fields.insert key.display (ofValue value)) rest

end

end Json
end RequestDispatch
