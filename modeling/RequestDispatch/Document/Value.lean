import RequestDispatch.Json.Encode
import RequestDispatch.Json.Path
import RequestDispatch.Text.Hex
import RequestDispatch.Value.Native

/-!
Values as JSON documents. Null, truth values, integers, texts and arrays stand for themselves; what
JSON has no form for is an object with one telling field. Objects are written by their labels, and
reading one makes a new object: the reader hands out serial numbers.
-/

namespace RequestDispatch

abbrev Numbered := StateM Nat

def SharedObject.new (content : ObjectContent) : Numbered SharedObject :=
  modifyGet fun serial => (⟨.given serial, content⟩, serial + 1)

def CollectionKind.ofJson (json : Json) : CollectionKind :=
  (CollectionKind.ofName? json.content).getD (.custom (json.typeAt "custom"))

def hexBytes (digits : String) : List UInt8 := (Text.ofHex? digits.toList).getD []

def bytesOfJson (json : Json) : List UInt8 :=
  match json.textAt? "hex" with
  | some digits => hexBytes digits
  | none => Text.utf8Bytes json.content

instance : ToJson (List UInt8) where
  toJson bytes :=
    match Text.decodeUtf8? bytes with
    | some text => .text text
    | none => .object [("hex", .text (Text.toHex bytes))]

/-- A number as its text, so that it is exact. -/
def Binary.toJson {layout : Layout} (value : Binary layout) : Json :=
  .object [("float", .text value.text)]

instance {layout : Layout} : ToJson (Binary layout) := ⟨Binary.toJson⟩

instance : ToJson Char := ⟨fun value => .object [("char", .text (String.ofList [value]))]⟩

def doubleOfText (text : String) : Double := (Binary.read? text.toList).getD .nan

/-- An object by its label, with the simple name of its type unless it is of the expected type. -/
def SharedObject.label (expected : TypeKey) (object : SharedObject) : String :=
  match object.content with
  | .stream _ _ => "<reader>"
  | .instance type label => if type = expected then label else type.simpleName ++ ":" ++ label

namespace Value

/-- Reads a value whose objects are of the given type. Every level takes one unit of fuel. -/
def readWith (objects : TypeKey) : Nat → Json → Numbered Value
  | 0, _ => pure .null
  | fuel + 1, json =>
    match json with
    | .null => pure .null
    | .bool value => pure (.bool value)
    | .int value => pure (.int (Int64.ofInt value))
    | .float value => pure (.float value)
    | .text value => pure (.text value)
    | .array items => .array <$> items.mapM (readWith objects fuel)
    | .object fields => do
      let held : Json := .object fields
      let items := (held.listAt "items").mapM (readWith objects fuel)
      match (fields.map Prod.fst).find? (· != "items") with
      | some "float" => return .float (doubleOfText (held.textAt "float"))
      | some "char" => return .char ((held.textAt "char").toList.headD ' ')
      | some "bytes" => return .bytes (hexBytes (held.textAt "bytes"))
      | some "enum" =>
        return .enumeration ((held.part "enum").typeAt 0) ((held.part "enum").textAt 1)
      | some "coll" => return .collection (.ofJson (held.part "coll")) (← items)
      | some "collection" =>
        return (collect? (.ofJson (held.part "collection")) (← items)).getD .null
      | some "map" =>
        return .map (← (held.listAt "map").mapM fun entry => do
          let key ← readWith objects fuel (entry.part 0)
          return (key, ← readWith objects fuel (entry.part 1)))
      | some "reader" =>
        let stream := held.part "reader"
        return .object (← SharedObject.new
          (.stream (hexBytes (stream.textAt "hex")) (stream.textAt? "fail")))
      | _ => return .object (← SharedObject.new (.instance objects (held.textAt "object")))

def ofJson (objects : TypeKey) (json : Json) : Numbered Value := readWith objects json.depth json

mutual

def toJson (objects : TypeKey) : Value → Json
  | .null => .null
  | .bool value => .bool value
  | .int value => .int value.toInt
  | .float value => value.toJson
  | .char value => ToJson.toJson value
  | .text value => .text value
  | .bytes value => .object [("bytes", .text (Text.toHex value))]
  | .enumeration type variant => .object [("enum", .array [.text type.name, .text variant])]
  | .array items => .array (itemsToJson objects items)
  | .collection kind items =>
    .object [("coll", .text kind.name), ("items", .array (itemsToJson objects items))]
  | .map entries => .object [("map", .array (entriesToJson objects entries))]
  | .object held => .object [("object", .text (held.label objects))]

def itemsToJson (objects : TypeKey) : List Value → List Json
  | [] => []
  | item :: rest => toJson objects item :: itemsToJson objects rest

def entriesToJson (objects : TypeKey) : List (Value × Value) → List Json
  | [] => []
  | (key, value) :: rest =>
    .array [toJson objects key, toJson objects value] :: entriesToJson objects rest

end

end Value

namespace Native

mutual

def toJson (objects : TypeKey) : Native → Json
  | .integer held => .int held
  | .double held => held.toJson
  | .single held => held.toJson
  | .bool held => .bool held
  | .char held => ToJson.toJson held
  | .text held => .text held
  | .absent => .null
  | .items held => .array (itemsToJson objects held)
  | .entries held => .object [("map", .array (entriesToJson objects held))]
  | .value held => held.toJson objects
  | .object held => .object [("object", .text (held.label objects))]

def itemsToJson (objects : TypeKey) : List Native → List Json
  | [] => []
  | item :: rest => toJson objects item :: itemsToJson objects rest

def entriesToJson (objects : TypeKey) : List (String × Native) → List Json
  | [] => []
  | (key, held) :: rest => .array [.text key, toJson objects held] :: entriesToJson objects rest

end

end Native
end RequestDispatch
