import RequestDispatch.Document.Value
import RequestDispatch.Settings.Toml.Document

/-!
Settings as JSON documents, and sources of settings as they are declared.
-/

namespace RequestDispatch
namespace Setting

/-- Reads a setting. Every level takes one unit of fuel. -/
def readWith : Nat → Json → Setting
  | 0, _ => .bool false
  | fuel + 1, json =>
    match json with
    | .text content => .text content
    | .bool value => .bool value
    | .int value => .int (Int64.ofInt value)
    | .array items => .list (items.map (readWith fuel))
    | json =>
      match json.textAt? "float" with
      | some digits => .float (doubleOfText digits)
      | none =>
        .table ((json.part "object").fields.map fun (key, value) => (key, readWith fuel value))

def ofJson (json : Json) : Setting := readWith json.depth json

mutual

def toJson : Setting → Json
  | .text content => .text content
  | .int value => .int value.toInt
  | .float value => value.toJson
  | .bool value => .bool value
  | .list items => .array (itemsToJson items)
  | .table entries => .object [("object", .object (entriesToJson entries))]

def itemsToJson : List Setting → List Json
  | [] => []
  | item :: rest => toJson item :: itemsToJson rest

def entriesToJson : List (String × Setting) → List (String × Json)
  | [] => []
  | (key, value) :: rest => (key, toJson value) :: entriesToJson rest

end

instance : ToJson Setting := ⟨toJson⟩

end Setting

def PropertySource.ofJson (process : Entries String) (json : Json) :
    Except SettingsProblem PropertySource := do
  let name := (json.textAt? "name").getD "source"
  let source ←
    match json.textAt "kind" with
    | "toml" => PropertySource.ofToml name (json.textAt "text")
    | "env" => .ok (.ofVariables (json.textAt "prefix") process)
    | _ =>
      .ok (.ofEntries name (.ofList ((json.listAt "props").map fun entry =>
        (entry.textAt 0, .ofJson (entry.part 1)))))
  return if json.has "priority" then source.withPriority (.ofInt (json.intAt "priority"))
    else source

def Environment.ofJson (process : Entries String) (json : Json) :
    Except SettingsProblem Environment := do
  let sources ← (json.listAt "sources").mapM (PropertySource.ofJson process)
  return (sources.foldl Environment.add .empty).withProfiles (json.textsAt "profiles")

end RequestDispatch
