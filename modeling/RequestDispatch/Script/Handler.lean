import RequestDispatch.Dispatch.Program
import RequestDispatch.Result.Outcome
import RequestDispatch.Script.Basic

/-!
Scripts of handlers. The statements run in order until one gives an answer or fails; a script that
comes to its end answers null.
-/

namespace RequestDispatch

inductive ScriptPiece where
  | literal (content : String)
  | argument (index : Nat)
  | pathVariable (name : String)
  | attribute (name : String)
  | depth

inductive HandlerStatement where
  | answer (value : ScriptValue)
  | answerArgument (index : Nat)
  | answerArguments
  | answerText (pieces : List ScriptPiece)
  /-- Reads an argument as a native type and notes it under the label. -/
  | check (index : Nat) (label : String) (type : NativeType)
  /-- Takes an argument out as a native type and notes it under the label. -/
  | take (index : Nat) (label : String) (type : NativeType)
  | note (pieces : List ScriptPiece)
  | raise (fault : Fault)
  | giveUp
  | nest (path : String)
  /-- Has a path served and only notes a failure. -/
  | nestQuietly (path : String)
  | setStatus (code : Nat)
  | setHeader (name value : String)
  | write (text : String)
  | redirect (location : String)
  | setAttribute (name : String) (value : ScriptValue)
  | setSession (name : String) (value : ScriptValue)
  | answerBody

namespace ScriptPiece

def text (arguments : Arguments) (exchange : Exchange Journal) : ScriptPiece → String
  | .literal content => content
  | .argument index => ((arguments.get? index).map Value.display).getD "?"
  | .pathVariable name => (exchange.pathVariable? name).getD "?"
  | .attribute name => ((exchange.attribute? name).map Value.display).getD "?"
  | .depth => toString exchange.bindings.depth

end ScriptPiece

namespace HandlerStatement

def gather (pieces : List ScriptPiece) (arguments : Arguments) (exchange : Exchange Journal) :
    String :=
  String.join (pieces.map (ScriptPiece.text arguments exchange))

def writeLine (line : Exchange Journal → String) : Program Journal Unit :=
  .look fun exchange => .does (.keep (exchange.state.note (line exchange)))

def make (value : ScriptValue) : Program Journal Value :=
  .look fun exchange =>
    let (made, journal) := exchange.state.make value
    .act (.keep journal) fun _ => .finish made

def attempt (rest : Program Journal CallResult) :
    Except DispatchError Unit → Program Journal CallResult
  | .ok () => rest
  | .error error => .finish (.error (.dispatch error))

def program (shown : Native → String) :
    List HandlerStatement → Arguments → Program Journal CallResult
  | [], _ => .finish (.ok .null)
  | statement :: rest, arguments =>
    let go (arguments : Arguments) : Program Journal CallResult := program shown rest arguments
    let noted (label : String) (result : Except ValueError Native) (arguments : Arguments) :
        Program Journal CallResult :=
      match result with
      | .error error => .finish (.error (.value error))
      | .ok native =>
        (writeLine fun _ => label ++ "=" ++ shown native).andThen fun _ => go arguments
    match statement with
    | .answer value => (make value).andThen fun made => .finish (.ok made)
    | .answerArgument index =>
      .finish (match arguments.get? index with
        | some value => .ok value
        | none => .error (.value (.indexOutOfBounds index arguments.length)))
    | .answerArguments => .finish (.ok (.array arguments.values))
    | .answerText pieces =>
      .look fun exchange => .finish (.ok (.text (gather pieces arguments exchange)))
    | .check index label type => noted label (arguments.read index type) arguments
    | .take index label type =>
      let (result, left) := arguments.take index type
      noted label result left
    | .note pieces => (writeLine (gather pieces arguments)).andThen fun _ => go arguments
    | .raise fault => .finish (.error fault)
    | .giveUp => .abandon
    | .nest path => .nest path (attempt (go arguments))
    | .nestQuietly path =>
      .nest path fun
        | .ok () => go arguments
        | .error error =>
          (writeLine fun _ => "include failed: " ++ error.message).andThen fun _ => go arguments
    | .setStatus code => .act (.setStatus code) fun _ => go arguments
    | .setHeader name value => .act (.setHeader name value) (attempt (go arguments))
    | .write text => .act (.write (Text.utf8Bytes text)) fun _ => go arguments
    | .redirect location => .act (.redirect location) (attempt (go arguments))
    | .setAttribute name value =>
      (make value).andThen fun made => .act (.setAttribute name made) fun _ => go arguments
    | .setSession name value =>
      (make value).andThen fun made => .act (.setSessionAttribute name made) fun _ => go arguments
    | .answerBody => .look fun exchange => .finish (.ok (.bytes exchange.request.body))

/-- The handler of faults that sets a status, writes the text of the fault into a template, and
tells whether it has handled the fault. -/
def faultHandler (code : Option Nat) (template : Option String) (handled : Bool) :
    ExceptionHandler Journal := fun fault =>
  let written : Program Journal Bool :=
    match template with
    | none => .finish handled
    | some template =>
      .act (.write (Text.utf8Bytes (fillTemplate template (.text fault.message)))) fun _ =>
        .finish handled
  match code with
  | none => written
  | some code => .act (.setStatus code) fun _ => written

end HandlerStatement
end RequestDispatch
