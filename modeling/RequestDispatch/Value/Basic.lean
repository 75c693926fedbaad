import RequestDispatch.Number.Decimal
import RequestDispatch.Text.Quoted
import RequestDispatch.Text.Utf8
import RequestDispatch.Type.Descriptor

/-!
Dynamic values: what parameters, handlers, interceptors and attributes hold. Objects are compared
by identity and all other values by what they hold.
-/

namespace RequestDispatch

/-- Where an object came from. Objects from different origins or with different serial numbers are
different objects. -/
inductive Identity where
  | given (serial : Nat)
  | constructed (serial : Nat)
  | bean (owner : Nat) (serial : Nat)
  deriving DecidableEq, Repr

/-- What an object holds: an instance of a named type with a label, or a stream of bytes that may
end in a failure. -/
inductive ObjectContent where
  | instance (type : TypeKey) (label : String)
  | stream (bytes : List UInt8) (failure : Option String)
  deriving DecidableEq, Repr

structure SharedObject where
  identity : Identity
  content : ObjectContent

inductive Value where
  | null
  | bool (value : Bool)
  | int (value : Int64)
  | float (value : Double)
  | char (value : Char)
  | text (value : String)
  | bytes (value : List UInt8)
  | enumeration (type : TypeKey) (variant : String)
  | array (items : List Value)
  | collection (kind : CollectionKind) (items : List Value)
  | map (entries : List (Value × Value))
  | object (value : SharedObject)

namespace Value

instance : Inhabited Value := ⟨.null⟩

mutual

/-- Equality of values. What is not a number equals nothing, itself included. -/
def equal : Value → Value → Bool
  | .null, .null => true
  | .bool left, .bool right => left == right
  | .int left, .int right => left == right
  | .float left, .float right => left.equal right
  | .char left, .char right => left == right
  | .text left, .text right => left == right
  | .bytes left, .bytes right => left == right
  | .enumeration leftType left, .enumeration rightType right =>
    leftType == rightType && left == right
  | .array left, .array right => equalItems left right
  | .collection leftKind left, .collection rightKind right =>
    leftKind == rightKind && equalItems left right
  | .map left, .map right => equalEntries left right
  | .object left, .object right => left.identity == right.identity
  | _, _ => false

def equalItems : List Value → List Value → Bool
  | [], [] => true
  | left :: lefts, right :: rights => equal left right && equalItems lefts rights
  | _, _ => false

def equalEntries : List (Value × Value) → List (Value × Value) → Bool
  | [], [] => true
  | (leftKey, left) :: lefts, (rightKey, right) :: rights =>
    equal leftKey rightKey && equal left right && equalEntries lefts rights
  | _, _ => false

end

mutual

/-- The text of a value. Null has none, and objects show nothing of themselves. -/
def display : Value → String
  | .null => ""
  | .bool value => if value then "true" else "false"
  | .int value => toString value.toInt
  | .float value => value.text
  | .char value => String.ofList [value]
  | .text value => value
  | .bytes value => Text.decodeUtf8Lossy value
  | .enumeration _ variant => variant
  | .array items => "[" ++ ", ".intercalate (displayItems items) ++ "]"
  | .collection _ items => "[" ++ ", ".intercalate (displayItems items) ++ "]"
  | .map entries => "\x7b" ++ ", ".intercalate (displayEntries entries) ++ "\x7d"
  | .object _ => "<object>"

def displayItems : List Value → List String
  | [] => []
  | item :: rest => display item :: displayItems rest

def displayEntries : List (Value × Value) → List String
  | [] => []
  | (key, value) :: rest => (display key ++ "=" ++ display value) :: displayEntries rest

end

mutual

def inspect : Value → String
  | .null => "Null"
  | .bool value => "Bool(" ++ (if value then "true" else "false") ++ ")"
  | .int value => "Int(" ++ toString value.toInt ++ ")"
  | .float value => "Float(" ++ value.text ++ ")"
  | .char value => "Char(" ++ Text.quotedChar value ++ ")"
  | .text value => "Str(" ++ Text.quoted value ++ ")"
  | .bytes value => "Bytes(" ++ toString value.length ++ " bytes)"
  | .enumeration type variant => "Enum(" ++ type.simpleName ++ "::" ++ variant ++ ")"
  | .array items => "Array([" ++ ", ".intercalate (inspectItems items) ++ "])"
  | .collection kind items => kind.name ++ "[" ++ ", ".intercalate (inspectItems items) ++ "]"
  | .map entries => "\x7b" ++ ", ".intercalate (inspectEntries entries) ++ "\x7d"
  | .object _ => "Object(..)"

def inspectItems : List Value → List String
  | [] => []
  | item :: rest => inspect item :: inspectItems rest

def inspectEntries : List (Value × Value) → List String
  | [] => []
  | (key, value) :: rest => (inspect key ++ ": " ++ inspect value) :: inspectEntries rest

end

def isNull : Value → Bool
  | .null => true
  | _ => false

def asBool? : Value → Option Bool
  | .bool value => some value
  | _ => none

def asInt? : Value → Option Int64
  | .int value => some value
  | _ => none

/-- Integers are rounded to the nearest number of 64 bits. -/
def asFloat? : Value → Option Double
  | .float value => some value
  | .int value => some (Binary.ofInt value.toInt)
  | _ => none

def asText? : Value → Option String
  | .text value => some value
  | .enumeration _ variant => some variant
  | _ => none

def items? : Value → Option (List Value)
  | .array items => some items
  | .collection _ items => some items
  | _ => none

def kindName : Value → String
  | .null => "null"
  | .bool _ => "bool"
  | .int _ => "int"
  | .float _ => "float"
  | .char _ => "char"
  | .text _ => "string"
  | .bytes _ => "bytes"
  | .enumeration _ _ => "enum"
  | .array _ => "array"
  | .collection _ _ => "collection"
  | .map _ => "map"
  | .object _ => "object"

def zero : Primitive → Value
  | .bool => .bool false
  | .char => .char '\x00'
  | .single | .double => .float (Binary.zero false)
  | _ => .int 0

/-- The entries with a value put under a key: in the place of the first equal key, or at the end. -/
def insertEntry (key value : Value) : List (Value × Value) → List (Value × Value)
  | [] => [(key, value)]
  | entry :: rest =>
    if entry.1.equal key then (entry.1, value) :: rest
    else entry :: insertEntry key value rest

def mapGet? (value : Value) (key : String) : Option Value :=
  match value with
  | .map entries => (entries.find? fun entry => entry.1.display == key).map Prod.snd
  | _ => none

end Value
end RequestDispatch
