import RequestDispatch.Result.Outcome
import RequestDispatch.Script.Basic

/-!
Scripts of interceptors. The result of the last time the call proceeded is kept, and it is the
result of the script unless a statement gives another.
-/

namespace RequestDispatch

inductive AdviceStatement where
  | note (line : String)
  | noteArguments
  | notePoint
  | noteNamed (name : String)
  | setArgument (index : Nat) (value : ScriptValue)
  | setNamed (name : String) (value : ScriptValue)
  | proceed
  | noteResult
  /-- Puts the text of a template in the place of a value that is kept. -/
  | mapResult (template : String)
  /-- Puts a value in the place of a fault that is kept. -/
  | recover (value : ScriptValue)
  | answer (value : ScriptValue)
  | raise (fault : Fault)

namespace AdviceStatement

def writeLine (line : String) (next : Advice Journal) : Advice Journal :=
  .recall fun journal => .keep (journal.note line) next

def make (value : ScriptValue) (next : Value → Advice Journal) : Advice Journal :=
  .recall fun journal =>
    let (made, journal) := journal.make value
    .keep journal (next made)

def resultLine : Option CallResult → String
  | none => "no result"
  | some (.ok value) => "ok " ++ value.display
  | some (.error fault) =>
    "err " ++ fault.kind.simpleName ++ " handled=" ++
      (if fault.isHandled then "true" else "false") ++
      " " ++ fault.fullDescription

def advice : List AdviceStatement → Option CallResult → Advice Journal
  | [], kept => .finish (kept.getD (.ok .null))
  | statement :: rest, kept =>
    let go (kept : Option CallResult) : Advice Journal := advice rest kept
    match statement with
    | .note line => writeLine line (go kept)
    | .noteArguments =>
      .inspect fun point _ => writeLine (Value.array point.arguments.values).display (go kept)
    | .notePoint =>
      .inspect fun point remaining =>
        writeLine (point.method.signature ++ " " ++ point.method.qualified ++ " " ++
          Text.quotedList point.argumentNames ++ " " ++ point.inspectProceeding remaining) (go kept)
    | .noteNamed name =>
      .inspect fun point _ =>
        let shown :=
          match point.named? name with
          | some value => "Some(" ++ value.inspect ++ ")"
          | none => "None"
        writeLine (name ++ "=" ++ shown) (go kept)
    | .setArgument index value =>
      make value fun made => .setArgument index made fun
        | .ok () => go kept
        | .error error => .finish (.error (.value error))
    | .setNamed name value =>
      make value fun made => .setNamed name made fun done =>
        writeLine ("set " ++ name ++ (if done then " true" else " false")) (go kept)
    | .proceed => .proceed fun result => go (some result)
    | .noteResult => writeLine (resultLine kept) (go kept)
    | .mapResult template =>
      go (kept.map fun result => result.map fun value => .text (fillTemplate template value))
    | .recover value =>
      match kept with
      | some (.error _) => make value fun made => go (some (.ok made))
      | kept => go kept
    | .answer value => make value fun made => .finish (.ok made)
    | .raise fault => .finish (.error fault)

def interceptor (name : String) (statements : List AdviceStatement) : Interceptor Journal :=
  ⟨name, advice statements none⟩

end AdviceStatement
end RequestDispatch
