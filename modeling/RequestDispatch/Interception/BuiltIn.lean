import RequestDispatch.Interception.Chain

/-!
Interceptors that only watch: one reports calls to the log of the host, one reports calls that take
long. They let the call proceed once and pass its result on.
-/

namespace RequestDispatch
namespace Interceptor

variable {State : Type}

def endLine (signature : String) : CallResult → String
  | .ok _ => "Exiting: " ++ signature
  | .error fault =>
    if fault.isHandled then "Exiting: " ++ signature ++ " (exception handled)"
    else
      "Exception in " ++ signature ++ ": [" ++ fault.kind.simpleName ++ "] " ++
        fault.fullDescription

def logging (showsArguments : Bool) : Interceptor State where
  name := "LoggingInterceptor"
  advice := .inspect fun point _ =>
    let signature := point.method.signature
    let shown := if showsArguments then " with " ++ point.arguments.inspect else ""
    .report (.line ("Entering: " ++ signature ++ shown))
      (.proceed fun result => .report (.line (endLine signature result)) (.finish result))

def timing (threshold : Nat) : Interceptor State where
  name := "TimingInterceptor"
  advice := .inspect fun point _ =>
    .proceed fun result =>
      .report (.slow threshold ("Slow method detected: " ++ point.method.signature))
        (.finish result)

end Interceptor
end RequestDispatch
