import RequestDispatch.Json.Basic

/-!
Places in JSON. A step leads to the field of an object or to an item of an array, and to nothing
where there is no such part. What is read at a place in another form than it has is empty: the text
of a number, the items of a text.
-/

namespace RequestDispatch

/-- Steps into JSON: keys of fields and places of items. -/
class JsonStep (Step : Type) where
  part? : Json → Step → Option Json

namespace Json

instance : JsonStep String where
  part?
    | .object fields, key => fields.lookup key
    | _, _ => none

instance : JsonStep Nat where
  part?
    | .array items, index => items[index]?
    | _, _ => none

def items? : Json → Option (List Json)
  | .array items => some items
  | _ => none

def items (json : Json) : List Json := json.items?.getD []

def fields : Json → List (String × Json)
  | .object fields => fields
  | _ => []

def entry (json : Json) : String × Json := json.fields.headD ("", .null)

def content? : Json → Option String
  | .text content => some content
  | _ => none

def content (json : Json) : String := json.content?.getD ""

def integer : Json → Int
  | .int value => value
  | _ => 0

def nat? : Json → Option Nat
  | .int value => some value.toNat
  | _ => none

def flag? : Json → Option Bool
  | .bool value => some value
  | _ => none

mutual

def depth : Json → Nat
  | .array items => depthOfItems items + 1
  | .object fields => depthOfFields fields + 1
  | _ => 1

def depthOfItems : List Json → Nat
  | [] => 0
  | item :: rest => max (depth item) (depthOfItems rest)

def depthOfFields : List (String × Json) → Nat
  | [] => 0
  | (_, value) :: rest => max (depth value) (depthOfFields rest)

end

variable {Step : Type} [JsonStep Step]

def part? (json : Json) (step : Step) : Option Json := JsonStep.part? json step

def part (json : Json) (step : Step) : Json := (json.part? step).getD .null

def has (json : Json) (step : Step) : Bool := (json.part? step).isSome

def textAt? (json : Json) (step : Step) : Option String := (json.part step).content?

def textAt (json : Json) (step : Step) : String := (json.part step).content

def intAt (json : Json) (step : Step) : Int := (json.part step).integer

def natAt (json : Json) (step : Step) : Nat := (json.intAt step).toNat

def flagAt (json : Json) (step : Step) : Bool := (json.part step).flag?.getD false

def listAt (json : Json) (step : Step) : List Json := (json.part step).items

def textsAt (json : Json) (step : Step) : List String := (json.listAt step).map content

def typeAt (json : Json) (step : Step) : TypeKey := ⟨json.textAt step⟩

end Json
end RequestDispatch
