import RequestDispatch.Conversion.Converter
import RequestDispatch.Type.Hierarchy

/-!
The conversion service. It finds the converter of a type: the one registered under its key, else
for an array one made from the converter of its elements, else the registered one that is closest
in the type hierarchy. What it has found once it keeps by key until the next registration.
-/

namespace RequestDispatch

abbrev CollectionAdapter := List Value → Value

structure ConversionService where
  hierarchy : TypeHierarchy
  registered : List (TypeKey × Converter)
  adapters : List (TypeKey × CollectionAdapter)
  cache : List (TypeKey × Converter)
  nextSerial : Nat

def replaceEntry {α : Type} (key : TypeKey) (value : α) : List (TypeKey × α) → List (TypeKey × α)
  | [] => [(key, value)]
  | entry :: rest =>
    if entry.1 = key then (key, value) :: rest else entry :: replaceEntry key value rest

namespace ConversionService

def empty (hierarchy : TypeHierarchy) : ConversionService := ⟨hierarchy, [], [], [], 0⟩

/-- Registers a converter; one registered before under the same key is replaced in its place. -/
def register (service : ConversionService) (key : TypeKey) (converter : Converter) :
    ConversionService :=
  { service with registered := replaceEntry key converter service.registered, cache := [] }

def registerCollection (service : ConversionService) (key : TypeKey) (adapter : CollectionAdapter) :
    ConversionService :=
  { service with adapters := replaceEntry key adapter service.adapters }

def adapter? (service : ConversionService) (key : TypeKey) : Option CollectionAdapter :=
  service.adapters.lookup key

def primitiveConverter : Primitive → Converter
  | .bool => .flag
  | .char => .character
  | _ => .number

def builtIn : List (TypeKey × Converter) :=
  (Primitive.all.flatMap fun primitive =>
    [(primitive.key, primitiveConverter primitive),
      (primitive.boxedKey, primitiveConverter primitive)]) ++
    [(.text, .text), (.enumeration, .variant)]

def standard (hierarchy : TypeHierarchy) : ConversionService :=
  builtIn.foldl (fun service entry => service.register entry.1 entry.2) (empty hierarchy)

/-- How far a registered converter is from a target: the steps from the registered type up to the
target, or for a converter that constructs subtypes the steps from the target up to it. -/
def converterDistance (service : ConversionService) (target : TypeDescriptor)
    (entry : TypeKey × Converter) : Option Nat :=
  match service.hierarchy.keyDistance entry.1 target.key with
  | some distance => some distance
  | none =>
    if entry.2.constructsSubtypes then service.hierarchy.distance target entry.1 else none

/-- The nearer of the best converter so far and the next one; the earlier of equally near ones. -/
def nearer (service : ConversionService) (target : TypeDescriptor)
    (best : Option (Nat × Converter)) (entry : TypeKey × Converter) : Option (Nat × Converter) :=
  match service.converterDistance target entry with
  | none => best
  | some distance =>
    match best with
    | none => some (distance, entry.2)
    | some (current, _) => if distance < current then some (distance, entry.2) else best

def closest? (service : ConversionService) (target : TypeDescriptor) : Option Converter :=
  (service.registered.foldl (service.nearer target) none).map Prod.snd

/-- The converter of a type, found without a look at what was found before. -/
def find (service : ConversionService) : TypeDescriptor → Except ConvertError Converter
  | .describe key kind =>
    match service.registered.lookup key with
    | some converter => .ok converter
    | none =>
      match kind with
      | .array element =>
        if element.isPrimitive then .error (.primitiveArray element.key)
        else (find service element).map (Converter.singleton element)
      | kind =>
        match service.closest? (.describe key kind) with
        | some converter => .ok converter
        | none => .error (.noConverter key)

def remember (service : ConversionService) (key : TypeKey) (converter : Converter) :
    Converter × ConversionService :=
  match service.cache.lookup key with
  | some known => (known, service)
  | none => (converter, { service with cache := service.cache ++ [(key, converter)] })

def lookup (service : ConversionService) :
    TypeDescriptor → Except ConvertError Converter × ConversionService
  | .describe key kind =>
    match service.registered.lookup key with
    | some converter => (.ok converter, service)
    | none =>
      match service.cache.lookup key with
      | some converter => (.ok converter, service)
      | none =>
        match kind with
        | .array element =>
          if element.isPrimitive then (.error (.primitiveArray element.key), service)
          else
            match lookup service element with
            | (.error error, service) => (.error error, service)
            | (.ok inner, service) =>
              let (converter, service) := service.remember key (.singleton element inner)
              (.ok converter, service)
        | kind =>
          match service.closest? (.describe key kind) with
          | none => (.error (.noConverter key), service)
          | some found =>
            let (converter, service) := service.remember key found
            (.ok converter, service)

def isTarget (target : TypeDescriptor) : Bool := !target.isCollection && !target.isMap

def ensureConvertible (service : ConversionService) (target : TypeDescriptor) :
    Except ConvertError Unit × ConversionService :=
  if isTarget target then
    let (found, service) := service.lookup target
    (found.map fun _ => (), service)
  else (.error (.notConvertible target.key), service)

mutual

/-- The text that stands for a raw value where one scalar is wanted: none for null, and for a
sequence that of its first element, or the empty text if it has none. -/
def leadText? : Value → Option String
  | .null => none
  | .array items => leadTextOfItems? items
  | .collection _ items => leadTextOfItems? items
  | value => some value.display

def leadTextOfItems? : List Value → Option String
  | [] => some ""
  | first :: _ => leadText? first

end

def applyConverter (service : ConversionService) (converter : Converter) (target : TypeDescriptor)
    (raw : String) : Except ConvertError Value × ConversionService :=
  (converter.convert target service.nextSerial raw,
    { service with nextSerial := service.nextSerial + 1 })

def convertItems
    (convertItem : ConversionService → Value → Except ConvertError Value × ConversionService)
    (service : ConversionService) :
    List Value → Except ConvertError (List Value) × ConversionService
  | [] => (.ok [], service)
  | item :: rest =>
    match convertItem service item with
    | (.error error, service) => (.error error, service)
    | (.ok value, service) =>
      match convertItems convertItem service rest with
      | (.error error, service) => (.error error, service)
      | (.ok values, service) => (.ok (value :: values), service)

def convertText (service : ConversionService) (target : TypeDescriptor) (raw : String) :
    Except ConvertError Value × ConversionService :=
  match service.lookup target with
  | (.error error, service) => (.error error, service)
  | (.ok converter, service) => service.applyConverter converter target raw

/-- Converts a raw value to a type. A sequence becomes an array item by item and a single value an
array of one; a scalar is taken from the first item of a sequence. -/
def convert (service : ConversionService) (target : TypeDescriptor) (raw : Value) :
    Except ConvertError Value × ConversionService :=
  match target with
  | .describe key (.collection _ _) => (.error (.notConvertible key), service)
  | .describe key (.map _ _) => (.error (.notConvertible key), service)
  | .describe key (.array element) =>
    match service.lookup (.describe key (.array element)) with
    | (.error error, service) => (.error error, service)
    | (.ok converter, service) =>
      match raw.items?, raw.isNull with
      | some items, _ =>
        let (converted, service) :=
          convertItems (fun service item => convert service element item) service items
        (converted.map .array, service)
      | none, true => (.ok .null, service)
      | none, false => service.applyConverter converter (.describe key (.array element)) raw.display
  | target =>
    match leadText? raw with
    | none => (.ok (nullValue target), service)
    | some text => service.convertText target text

end ConversionService
end RequestDispatch
