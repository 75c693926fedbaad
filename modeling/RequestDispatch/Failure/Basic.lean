import RequestDispatch.Failure.Causes
import RequestDispatch.Value.Native

/-!
Failures of a dispatch and faults thrown by handlers and interceptors. Either may hold the other: a
failure that a handler passes on is thrown as a fault, and a fault that nobody handles is a failure
of the dispatch. The signal that a fault has been handled travels like a fault but is no failure.
-/

namespace RequestDispatch

mutual

inductive DispatchError where
  | notFound (method path : String)
  | missingParameter (name : String) (source : ParameterSource)
  | conversion (cause : ConvertError)
  | view (cause : ViewError)
  | interception (cause : InterceptionError)
  | container (cause : ContainerError)
  | configuration (problem : ConfigurationProblem)
  | invalidHeader (problem : HeaderProblem)
  | handler (fault : Fault)
  | handled

/-- What a handler or an interceptor throws. A custom fault has a kind of its own, and possibly a
fault that caused it. -/
inductive Fault where
  | plain (text : String)
  | custom (kind : TypeKey) (text : String) (cause : Option Fault)
  | handled
  | value (error : ValueError)
  | dispatch (error : DispatchError)
  | wrongTarget (expected : String)
  | stream (text : String)

end

instance : Inhabited Fault := ⟨.handled⟩

instance : Inhabited DispatchError := ⟨.handled⟩

mutual

def DispatchError.message : DispatchError → String
  | .notFound method path => "No handler found for " ++ method ++ " " ++ path
  | .missingParameter name source => "Missing " ++ source.name ++ " parameter '" ++ name ++ "'"
  | .conversion cause => "Conversion error: " ++ cause.message
  | .view cause => "View error: " ++ cause.message
  | .interception cause => "Interceptor error: " ++ cause.message
  | .container cause => "Container error: " ++ cause.message
  | .configuration problem => "Configuration error: " ++ problem.message
  | .invalidHeader problem => "Invalid header: " ++ problem.message
  | .handler fault => "Handler failed: " ++ fault.message
  | .handled => "Exception handled"

def Fault.message : Fault → String
  | .plain text => text
  | .custom _ text _ => text
  | .handled => "Exception handled"
  | .value error => error.message
  | .dispatch error => error.message
  | .wrongTarget expected => "Handler target is not a '" ++ expected ++ "'"
  | .stream text => text

end

structure Cause where
  message : String
  handled : Bool

namespace DispatchError

/-- The causes behind a failure, outermost first. A fault that nobody handled is told in the text
of its failure and is not a cause of it. -/
def causes : DispatchError → List Cause
  | .conversion cause => [⟨cause.message, false⟩]
  | .view cause => [⟨cause.message, false⟩]
  | .interception (.unresolved method type cause) =>
    [⟨(InterceptionError.unresolved method type cause).message, false⟩, ⟨cause.message, false⟩]
  | .interception cause => [⟨cause.message, false⟩]
  | .container cause => [⟨cause.message, false⟩]
  | .handled => [⟨"Exception handled", true⟩]
  | _ => []

def isHandled : DispatchError → Bool
  | .handled => true
  | _ => false

def status : DispatchError → Nat
  | .notFound _ _ => 404
  | .missingParameter _ _ => 400
  | .handled => 200
  | _ => 500

end DispatchError

namespace Fault

/-- The kind by which a handler for a fault is looked up. -/
def kind : Fault → TypeKey
  | .plain _ => ⟨"switchyard_core::error::MessageError"⟩
  | .custom kind _ _ => kind
  | .handled => ⟨"switchyard_core::error::Handled"⟩
  | .value _ => ⟨"switchyard_core::value::ValueError"⟩
  | .dispatch _ => ⟨"switchyard_web::error::WebError"⟩
  | .wrongTarget _ => ⟨"switchyard_web::invocation::TargetMismatch"⟩
  | .stream _ => ⟨"std::io::error::Error"⟩

/-- A fault is itself the signal that something has been handled. -/
def isSignal : Fault → Bool
  | .handled => true
  | _ => false

def causes : Fault → List Cause
  | .custom _ _ (some cause) => ⟨cause.message, cause.isSignal⟩ :: causes cause
  | .dispatch error => error.causes
  | _ => []

/-- A fault is the signal that something has been handled, or has that signal among its causes. -/
def isHandled (fault : Fault) : Bool := fault.isSignal || fault.causes.any Cause.handled

def fullDescription (fault : Fault) : String :=
  match fault.causes with
  | [] => fault.message
  | causes => fault.message ++ "\nCaused by:\n  " ++ "\n  ".intercalate (causes.map Cause.message)

def inspect (fault : Fault) : String :=
  "ThrownError \x7b kind: TypeKey(" ++ fault.kind.name ++ "), message: " ++
    Text.quoted fault.message ++ " \x7d"

end Fault

structure FaultInfo where
  message : String
  kindName : String
  causes : List String
  handled : Bool

def Fault.info (fault : Fault) : FaultInfo :=
  { message := fault.message, kindName := fault.kind.simpleName,
    causes := fault.causes.map Cause.message, handled := fault.isHandled }

end RequestDispatch
