import RequestDispatch.Json.Basic

/-!
Data as JSON. A pair is an array of two, something that is missing is null, and of a result that is
a failure the failure stands in its place.
-/

namespace RequestDispatch

class ToJson (Data : Type) where
  toJson : Data → Json

export ToJson (toJson)

namespace Json

variable {Data Other : Type} [ToJson Data] [ToJson Other]

instance : ToJson Json := ⟨id⟩

instance : ToJson String := ⟨.text⟩

instance : ToJson Bool := ⟨.bool⟩

instance : ToJson Int := ⟨.int⟩

instance : ToJson Nat := ⟨fun value => .int value⟩

instance : ToJson Int64 := ⟨fun value => .int value.toInt⟩

instance : ToJson Int32 := ⟨fun value => .int value.toInt⟩

instance : ToJson TypeKey := ⟨fun type => .text type.name⟩

instance : ToJson (List Data) := ⟨fun items => .array (items.map toJson)⟩

instance : ToJson (Option Data) := ⟨fun data => (data.map toJson).getD .null⟩

instance : ToJson (Data × Other) := ⟨fun pair => .array [toJson pair.1, toJson pair.2]⟩

instance : ToJson (Except Other Data) where
  toJson
    | .ok data => toJson data
    | .error failure => toJson failure

end Json
end RequestDispatch
