import RequestDispatch.Text.Casing
import RequestDispatch.Text.Utf8

/-!
Header fields: lower-case names with byte values, several of which may share a name. A value is
readable if it consists of visible ASCII characters, blanks and tabs.
-/

namespace RequestDispatch

inductive HeaderProblem where
  | invalidName (name : String)
  | invalidValue (label : String)
  | other (text : String)
  deriving DecidableEq, Repr

def HeaderProblem.message : HeaderProblem → String
  | .invalidName name => name ++ ": invalid HTTP header name"
  | .invalidValue label => label ++ ": failed to parse header value"
  | .other text => text

def isTokenChar (character : Char) : Bool :=
  character.isAlphanum ||
    ['!', '#', '$', '%', '&', '\x27', '*', '+', '-', '.', '^', '_', '\x60', '|', '~'].contains
      character

def normalizeHeaderName? (name : String) : Option String :=
  if name.isEmpty || !name.toList.all isTokenChar then none else some (Text.lowerAscii name)

/-- A byte that may stand in the value of a header: no control but the tab. -/
def isHeaderByte (byte : UInt8) : Bool := (0x20 ≤ byte && byte ≠ 0x7F) || byte = 0x09

def headerValue? (text : String) : Option (List UInt8) :=
  let bytes := Text.utf8Bytes text
  if bytes.all isHeaderByte then some bytes else none

def readableText? (value : List UInt8) : Option String :=
  if value.all fun byte => (0x20 ≤ byte && byte < 0x7F) || byte = 0x09 then
    some (String.ofList (value.map Char.ofUInt8))
  else none

structure Headers where
  fields : List (String × List UInt8)

namespace Headers

def empty : Headers := ⟨[]⟩

def values (headers : Headers) (name : String) : List (List UInt8) :=
  match normalizeHeaderName? name with
  | none => []
  | some key => (headers.fields.filter fun field => field.1 == key).map Prod.snd

def contains (headers : Headers) (name : String) : Bool := !(headers.values name).isEmpty

def text? (headers : Headers) (name : String) : Option String :=
  (headers.values name).head?.bind readableText?

def texts (headers : Headers) (name : String) : List String :=
  (headers.values name).filterMap readableText?

def append (headers : Headers) (name : String) (value : List UInt8) : Headers :=
  ⟨headers.fields ++ [(name, value)]⟩

def insert (headers : Headers) (name : String) (value : List UInt8) : Headers :=
  ⟨(headers.fields.filter fun field => field.1 != name) ++ [(name, value)]⟩

def sorted (headers : Headers) : List (String × List UInt8) :=
  headers.fields.mergeSort fun left right => !(decide (right.1 < left.1))

end Headers
end RequestDispatch
