import RequestDispatch.Exchange.Basic
import RequestDispatch.Failure.Basic
import RequestDispatch.Interception.Advice

/-!
Programs: what handlers do to the exchange they work in. A program looks at the exchange, acts on
it, and may have another path of the same dispatcher served in between.
-/

namespace RequestDispatch

inductive Action (State : Type) where
  | setStatus (code : Nat)
  | setHeader (name value : String)
  | defaultContentType (value : String)
  | write (bytes : List UInt8)
  | redirect (location : String)
  | resetResponse
  | setAttribute (name : String) (value : Value)
  | removeAttribute (name : String)
  | setSessionAttribute (name : String) (value : Value)
  | removeSessionAttribute (name : String)
  | keep (state : State)

namespace Action

variable {State : Type}

/-- Replaces the response by a changed one, or fails and leaves it as it is. -/
def tryRespond (exchange : Exchange State) (changed : Except HeaderProblem ResponseSink) :
    Except DispatchError Unit × Exchange State :=
  match changed with
  | .ok sink => (.ok (), { exchange with sink := sink })
  | .error problem => (.error (.invalidHeader problem), exchange)

def perform (exchange : Exchange State) : Action State → Except DispatchError Unit × Exchange State
  | .setStatus code => (.ok (), exchange.respond fun sink => sink.setStatus code)
  | .setHeader name value => tryRespond exchange (exchange.sink.setHeader name value)
  | .defaultContentType value =>
    (.ok (), exchange.respond fun sink => sink.defaultContentType value)
  | .write bytes => (.ok (), exchange.respond fun sink => sink.write bytes)
  | .redirect location => tryRespond exchange (exchange.sink.redirect location)
  | .resetResponse => (.ok (), exchange.respond ResponseSink.reset)
  | .setAttribute name value => (.ok (), exchange.setAttribute name value)
  | .removeAttribute name => (.ok (), exchange.removeAttribute name)
  | .setSessionAttribute name value => (.ok (), exchange.setSessionAttribute name value)
  | .removeSessionAttribute name => (.ok (), exchange.removeSessionAttribute name)
  | .keep state => (.ok (), { exchange with state := state })

end Action

inductive Program (State α : Type) where
  | finish (result : α)
  | abandon
  | look (next : Exchange State → Program State α)
  | act (action : Action State) (next : Except DispatchError Unit → Program State α)
  /-- Has another path served within the same exchange. -/
  | nest (path : String) (next : Except DispatchError Unit → Program State α)

namespace Program

variable {World State α β : Type}

instance : Inhabited (Program State α) := ⟨.abandon⟩

def andThen (next : α → Program State β) : Program State α → Program State β
  | .finish result => next result
  | .abandon => .abandon
  | .look view => .look fun exchange => (view exchange).andThen next
  | .act action rest => .act action fun answer => (rest answer).andThen next
  | .nest path rest => .nest path fun answer => (rest answer).andThen next

instance : Monad (Program State) where
  pure := .finish
  bind program next := program.andThen next

def does (action : Action State) : Program State Unit := .act action fun _ => .finish ()

def reads (view : Exchange State → α) : Program State α :=
  .look fun exchange => .finish (view exchange)

def run (part : Part World (Exchange State))
    (nested : String → Process World (Except DispatchError Unit)) :
    Program State α → Process World α
  | .finish result => .done result
  | .abandon => .abandon
  | .look next => fun world => (next (part.get world)).run part nested world
  | .act action next => fun world =>
    let (answer, exchange) := action.perform (part.get world)
    (next answer).run part nested (part.set exchange world)
  | .nest path next => (nested path).andThen fun answer => (next answer).run part nested

end Program

abbrev HandlerBody (State : Type) := Arguments → Program State CallResult

/-- A program that deals with a fault. It tells whether the fault has been handled. -/
abbrev ExceptionHandler (State : Type) := Fault → Program State Bool

end RequestDispatch
