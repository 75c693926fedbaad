import RequestDispatch.Number.Integer
import RequestDispatch.Text.Blank
import RequestDispatch.Text.Casing
import RequestDispatch.Value.Basic

/-!
Converters: how text becomes a value of a described type. Text that is no value of a scalar type
becomes null where the type may be absent and the zero of the type where it may not.
-/

namespace RequestDispatch

inductive ConvertError where
  | noConverter (type : TypeKey)
  | primitiveArray (element : TypeKey)
  | notConvertible (type : TypeKey)
  | invalid (type : TypeKey) (value reason : String)
  deriving DecidableEq, Repr

def ConvertError.message : ConvertError → String
  | .noConverter type => "No converter registered for type '" ++ type.name ++ "'"
  | .primitiveArray element =>
    "Cannot bind request values to an array of primitive '" ++ element.name ++ "'"
  | .notConvertible type =>
    "Type '" ++ type.name ++ "' is not a scalar or array conversion target"
  | .invalid type value reason =>
    "Cannot convert '" ++ value ++ "' to '" ++ type.name ++ "': " ++ reason

/-- A conversion from text. Besides the target it is given a serial number, which no other
conversion of the same service has, as the identity of an object that it may construct. -/
structure Converter where
  name : String
  /-- It also serves the subtypes of the type it is registered for. -/
  constructsSubtypes : Bool
  convert : TypeDescriptor → Nat → String → Except ConvertError Value

def nullValue (target : TypeDescriptor) : Value :=
  match target.kind with
  | .primitive primitive => .zero primitive
  | _ => .null

namespace Converter

def scalarTarget (target : TypeDescriptor) : Except ConvertError (Primitive × Bool) :=
  match target.kind with
  | .primitive primitive => .ok (primitive, false)
  | .boxed primitive => .ok (primitive, true)
  | _ => .error (.notConvertible target.key)

def fallback (primitive : Primitive) (boxed : Bool) : Value :=
  if boxed then .null else .zero primitive

def greatestInteger : Int := 0x7FFFFFFFFFFFFFFF

def parseNumber? (primitive : Primitive) (text : List Char) : Option Value :=
  match primitive with
  | .single => (Binary.read? text : Option Single).map fun number => .float number.cast
  | .double => (Binary.read? text : Option Double).map .float
  | integer =>
    match integer.range? with
    | some (least, greatest) =>
      (Integer.readWithin? least (min greatest greatestInteger) text).map fun value =>
        .int (Int64.ofInt value)
    | none => none

def number : Converter where
  name := "NumberConverter"
  constructsSubtypes := false
  convert target _ raw := do
    let (primitive, boxed) ← scalarTarget target
    return (parseNumber? primitive (Text.trimBoth Text.isBlank raw.toList)).getD
      (fallback primitive boxed)

/-- The words for true, in any case, and every number but zero are true; all else is false. -/
def parseFlag (raw : String) : Bool :=
  let text := Text.trim raw
  if ["true", "on", "y", "yes"].any fun word => Text.sameIgnoringAsciiCase text word then true
  else
    match (Binary.read? text.toList : Option Double) with
    | some value => !value.equal (Binary.zero false) && value ≠ .nan
    | none => false

/-- Truth values; a blank text is absent where that is possible. -/
def flag : Converter where
  name := "BoolConverter"
  constructsSubtypes := false
  convert target _ raw := do
    let (primitive, boxed) ← scalarTarget target
    if boxed && (Text.trim raw).isEmpty then return fallback primitive boxed
    return .bool (parseFlag raw)

def character : Converter where
  name := "CharConverter"
  constructsSubtypes := false
  convert target _ raw := do
    let (primitive, boxed) ← scalarTarget target
    return (raw.toList.head?.map Value.char).getD (fallback primitive boxed)

def text : Converter where
  name := "StringConverter"
  constructsSubtypes := false
  convert _ _ raw := .ok (.text raw)

/-- The variant that a text names: the first that is equal, or else the first that is equal but for
the case of ASCII letters. -/
def findVariant? (variants : List String) (raw : String) : Option String :=
  let name := Text.trim raw
  (variants.find? fun variant => variant == name).or
    (variants.find? fun variant => Text.sameIgnoringAsciiCase variant name)

/-- Variants of an enumeration; the target may be any subtype of the registered type. -/
def variant : Converter where
  name := "EnumConverter"
  constructsSubtypes := true
  convert target _ raw :=
    match target.kind with
    | .enumeration variants =>
      .ok (((findVariant? variants raw).map (Value.enumeration target.key)).getD .null)
    | _ => .ok .null

def ofFunction (function : Nat → String → Except ConvertError Value) : Converter where
  name := "FnConverter"
  constructsSubtypes := false
  convert _ serial raw := function serial raw

def singleton (element : TypeDescriptor) (inner : Converter) : Converter where
  name := "ArrayConverter"
  constructsSubtypes := false
  convert _ serial raw := (inner.convert element serial raw).map fun value => .array [value]

end Converter
end RequestDispatch
