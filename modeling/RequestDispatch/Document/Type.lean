import RequestDispatch.Document.Value
import RequestDispatch.Type.Hierarchy

/-!
Types as JSON documents: primitive types, their boxed forms with a question mark, and texts by name,
all other types as objects. An object of no known form holds the short name of a native type in its
only field.
-/

namespace RequestDispatch
namespace TypeDescriptor

def ofName (name : String) : TypeDescriptor :=
  if name = "String" then .text
  else
    match Primitive.ofName? name with
    | some primitive => .primitive primitive
    | none =>
      .boxed ((Primitive.ofName? (String.ofList name.toList.dropLast)).getD .bool)

def readWith (objects : TypeKey) : Nat → Json → TypeDescriptor
  | 0, _ => .text
  | fuel + 1, json =>
    let inner (key : String) : TypeDescriptor := readWith objects fuel (json.part key)
    if let .text name := json then ofName name
    else if json.has "enum" then .enumeration (json.typeAt "enum") (json.textsAt "variants")
    else if json.has "array" then .arrayOf (inner "array")
    else if json.has "coll" then .collectionOf (.ofJson (json.part "coll")) (inner "of")
    else if json.has "map" then
      .mapOf (readWith objects fuel ((json.part "map").part 0))
        (readWith objects fuel ((json.part "map").part 1))
    else if json.has "object" then .object (json.typeAt "object")
    else if json.has "key" then (inner "of").withKey (json.typeAt "key")
    else
      ((NativeType.parse? objects json.entry.2.content).bind NativeType.descriptor?).getD .text

def ofJson (objects : TypeKey) (json : Json) : TypeDescriptor := readWith objects json.depth json

end TypeDescriptor

def TypeHierarchy.ofJson (json : Json) : TypeHierarchy :=
  json.items.foldl (fun hierarchy entry =>
    hierarchy.declare (entry.typeAt 0) ((entry.textsAt 1).map TypeKey.mk)) .standard

end RequestDispatch
