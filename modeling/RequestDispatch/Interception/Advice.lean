import RequestDispatch.Failure.Basic
import RequestDispatch.Process
import RequestDispatch.Type.Key
import RequestDispatch.Value.Arguments

/-!
Advice: what an interceptor does around a call. It may look at the call and change its arguments,
let the call proceed as often as it likes, and decide on the result. Each time it proceeds, what
lies inside works on a copy of the arguments as they are then.
-/

namespace RequestDispatch

abbrev CallResult := Except Fault Value

structure JoinPoint where
  method : MethodKey
  argumentNames : List String
  arguments : Arguments

namespace JoinPoint

def position? (point : JoinPoint) (name : String) : Option Nat := point.argumentNames.idxOf? name

def named? (point : JoinPoint) (name : String) : Option Value :=
  (point.position? name).bind point.arguments.get?

def setArgument (point : JoinPoint) (index : Nat) (value : Value) : Except ValueError JoinPoint :=
  (point.arguments.set index value).map fun arguments => { point with arguments := arguments }

def setNamed? (point : JoinPoint) (name : String) (value : Value) : Option JoinPoint :=
  (point.position? name).bind fun index => (point.setArgument index value).toOption

def inspect (point : JoinPoint) : String :=
  "JoinPoint \x7b signature: " ++ Text.quoted point.method.signature ++ ", arg_names: " ++
    Text.quotedList point.argumentNames ++ ", args: " ++ point.arguments.inspect ++ " \x7d"

def inspectProceeding (point : JoinPoint) (remaining : Nat) : String :=
  "ProceedingJoinPoint \x7b join_point: " ++ point.inspect ++ ", remaining: " ++
    toString remaining ++ " \x7d"

end JoinPoint

inductive LogEntry where
  | line (text : String)
  /-- The text if the call has taken longer than so many milliseconds, and nothing otherwise. -/
  | slow (threshold : Nat) (text : String)
  deriving DecidableEq, Repr

/-- The steps of an interceptor. The state is what the application keeps between requests. -/
inductive Advice (State : Type) where
  | finish (result : CallResult)
  | abandon
  /-- Tells the log of the host something. Nothing else sees it. -/
  | report (entry : LogEntry) (next : Advice State)
  | recall (next : State → Advice State)
  | keep (state : State) (next : Advice State)
  /-- Looks at the call and at the number of interceptors still inside. -/
  | inspect (next : JoinPoint → Nat → Advice State)
  | setArgument (index : Nat) (value : Value) (next : Except ValueError Unit → Advice State)
  | setNamed (name : String) (value : Value) (next : Bool → Advice State)
  /-- Puts other arguments in the place of all, be they as many or not. -/
  | setArguments (arguments : Arguments) (next : Advice State)
  | proceed (next : CallResult → Advice State)

structure Interceptor (State : Type) where
  name : String
  advice : Advice State

namespace Advice

variable {World State : Type}

instance : Inhabited (Advice State) := ⟨.abandon⟩

def run (part : Part World State) (inner : Arguments → Process World CallResult)
    (remaining : Nat) : Advice State → JoinPoint → Process World CallResult
  | .finish result, _ => .done result
  | .abandon, _ => .abandon
  | .report _ next, point => next.run part inner remaining point
  | .recall next, point => fun world => (next (part.get world)).run part inner remaining point world
  | .keep state next, point => fun world =>
    next.run part inner remaining point (part.set state world)
  | .inspect next, point => (next point remaining).run part inner remaining point
  | .setArgument index value next, point =>
    match point.setArgument index value with
    | .ok changed => (next (.ok ())).run part inner remaining changed
    | .error error => (next (.error error)).run part inner remaining point
  | .setNamed name value next, point =>
    match point.setNamed? name value with
    | some changed => (next true).run part inner remaining changed
    | none => (next false).run part inner remaining point
  | .setArguments arguments next, point =>
    next.run part inner remaining { point with arguments := arguments }
  | .proceed next, point =>
    (inner point.arguments).andThen fun result => (next result).run part inner remaining point

end Advice
end RequestDispatch
