import RequestDispatch.Exchange.Bindings
import RequestDispatch.Exchange.Request
import RequestDispatch.Exchange.Sink

/-!
An exchange: one request while it is being served, with all that handlers read and write.
-/

namespace RequestDispatch

/-- A request with its attributes, its session, its response and its path bindings. The state is
what the application itself keeps between requests. -/
structure Exchange (State : Type) where
  request : Request
  attributes : Entries Value
  session : Option Session
  sink : ResponseSink
  bindings : BindingStack
  /-- The streams that have been read. -/
  drained : List Identity
  state : State

namespace Exchange

variable {State : Type}

def start (request : Request) (state : State) : Exchange State :=
  { request := request, attributes := [], session := none, sink := .fresh, bindings := .empty,
    drained := [], state := state }

def attribute? (exchange : Exchange State) (name : String) : Option Value :=
  exchange.attributes.get? name

def setAttribute (exchange : Exchange State) (name : String) (value : Value) : Exchange State :=
  { exchange with attributes := exchange.attributes.insert name value }

def removeAttribute (exchange : Exchange State) (name : String) : Exchange State :=
  { exchange with attributes := exchange.attributes.erase name }

def sessionAttribute? (exchange : Exchange State) (name : String) : Option Value :=
  exchange.session.bind fun session => session.attributes.get? name

def changeSession (exchange : Exchange State) (change : Entries Value → Entries Value) :
    Exchange State :=
  { exchange with
    session := exchange.session.map fun session =>
      { session with attributes := change session.attributes } }

def setSessionAttribute (exchange : Exchange State) (name : String) (value : Value) :
    Exchange State :=
  exchange.changeSession fun attributes => attributes.insert name value

def removeSessionAttribute (exchange : Exchange State) (name : String) : Exchange State :=
  exchange.changeSession fun attributes => attributes.erase name

def pathVariable? (exchange : Exchange State) (name : String) : Option String :=
  exchange.bindings.get? name

def respond (exchange : Exchange State) (change : ResponseSink → ResponseSink) : Exchange State :=
  { exchange with sink := change exchange.sink }

def pushBindings (exchange : Exchange State) (bindings : PathBindings) : Exchange State :=
  { exchange with bindings := exchange.bindings.push bindings }

def leaveScope (exchange : Exchange State) (depth : Nat) : Exchange State :=
  { exchange with bindings := exchange.bindings.leave depth }

def inspect (exchange : Exchange State) : String :=
  let pair (field : String × String) : String :=
    "(" ++ Text.quoted field.1 ++ ", " ++ Text.quoted field.2 ++ ")"
  "RequestContext \x7b method: " ++ exchange.request.method ++ ", path: " ++
    Text.quoted exchange.request.path ++ ", query: [" ++
    ", ".intercalate (exchange.request.query.map pair) ++ "], binding_depth: " ++
    toString exchange.bindings.depth ++ " \x7d"

end Exchange

def Session.inspect (session : Session) : String :=
  "Session \x7b id: " ++ Text.quoted session.id ++ ", attributes: " ++
    toString session.attributes.length ++ " \x7d"

end RequestDispatch
