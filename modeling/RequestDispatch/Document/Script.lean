import RequestDispatch.Document.Value
import RequestDispatch.Script.Handler
import RequestDispatch.Script.Interceptor

/-!
Scripts as JSON documents: lists of objects with one field each, whose key is the word for a
statement. Faults are read by a reader of their own. A script without a request leaves out the
statements that need one, and has question marks in the place of what it would ask the request for.
-/

namespace RequestDispatch

structure Vocabulary where
  objects : TypeKey
  fault : Json → Fault

namespace Vocabulary

def scriptValue (words : Vocabulary) (json : Json) : ScriptValue := fun serial =>
  (Value.ofJson words.objects json).run serial

def native (words : Vocabulary) (name : String) : NativeType :=
  (NativeType.parse? words.objects name).getD .dynamic

def pieces (hasRequest : Bool) (json : Json) : List ScriptPiece :=
  json.items.map fun piece =>
    match piece, piece.entry with
    | .text content, _ => .literal content
    | _, ("arg", index) => .argument index.integer.toNat
    | _, (kind, name) =>
      if !hasRequest then .literal "?"
      else if kind = "path" then .pathVariable name.content
      else if kind = "attr" then .attribute name.content
      else .depth

def plainStatement? (words : Vocabulary) (hasRequest : Bool) (kind : String) (held : Json) :
    Option HandlerStatement :=
  match kind with
  | "return" => some (.answer (words.scriptValue held))
  | "return_arg" => some (.answerArgument held.integer.toNat)
  | "return_args" => some .answerArguments
  | "return_text" => some (.answerText (pieces hasRequest held))
  | "check" => some (.check (held.natAt 0) (held.textAt 1) (words.native (held.textAt 1)))
  | "take" => some (.take (held.natAt 0) (held.textAt 1) (words.native (held.textAt 1)))
  | "log" => some (.note (pieces hasRequest held))
  | "throw" => some (.raise (words.fault held))
  | "panic" => some .giveUp
  | _ => none

def requestStatement? (words : Vocabulary) (kind : String) (held : Json) :
    Option HandlerStatement :=
  match kind with
  | "include" => some (.nest held.content)
  | "include_quietly" => some (.nestQuietly held.content)
  | "status" => some (.setStatus held.integer.toNat)
  | "header" => some (.setHeader (held.textAt 0) (held.textAt 1))
  | "write" => some (.write held.content)
  | "redirect" => some (.redirect held.content)
  | "set_attr" => some (.setAttribute (held.textAt 0) (words.scriptValue (held.part 1)))
  | "set_session" => some (.setSession (held.textAt 0) (words.scriptValue (held.part 1)))
  | "echo_body" => some .answerBody
  | _ => none

def handler (words : Vocabulary) (hasRequest : Bool) (json : Json) : HandlerBody Journal :=
  HandlerStatement.program (fun native => (native.toJson words.objects).compact)
    (json.items.filterMap fun statement =>
      let (kind, held) := statement.entry
      match words.plainStatement? hasRequest kind held with
      | some statement => some statement
      | none => if hasRequest then words.requestStatement? kind held else none)

def adviceStatement (words : Vocabulary) (json : Json) : AdviceStatement :=
  let (kind, held) := json.entry
  match kind with
  | "log" => .note held.content
  | "log_args" => .noteArguments
  | "log_point" => .notePoint
  | "log_named" => .noteNamed held.content
  | "set_arg" | "set_arg_mut" => .setArgument (held.natAt 0) (words.scriptValue (held.part 1))
  | "set_named" => .setNamed (held.textAt 0) (words.scriptValue (held.part 1))
  | "proceed" => .proceed
  | "log_result" => .noteResult
  | "map_result" => .mapResult held.content
  | "recover" => .recover (words.scriptValue held)
  | "return" => .answer (words.scriptValue held)
  | _ => .raise (words.fault held)

def interceptor (words : Vocabulary) (name : String) (json : Json) : Interceptor Journal :=
  AdviceStatement.interceptor name (json.items.map words.adviceStatement)

end Vocabulary
end RequestDispatch
