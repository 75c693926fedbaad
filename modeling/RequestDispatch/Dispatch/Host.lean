import RequestDispatch.Dispatch.Dispatcher

/-!
The host of an application: what outlives a request.
-/

namespace RequestDispatch

/-- What a host keeps between requests: the state of the application, what the dispatchers remember,
the sessions, and which streams have been read. -/
structure Host (State : Type) where
  state : State
  memories : List (Nat × Memory State)
  sessions : Entries Session
  drained : List Identity

namespace Host

variable {State α : Type}

def start (state : State) : Host State := ⟨state, [], [], []⟩

/-- The host with lasting sessions; of those with one identifier the last is kept. -/
def withSessions (host : Host State) (sessions : List Session) : Host State :=
  { host with sessions := .ofList (sessions.map fun session => (session.id, session)) }

def session? (host : Host State) (id : String) : Option Session := host.sessions.get? id

def keepSession (sessions : Entries Session) : Option Session → Entries Session
  | some changed => if changed.lasting then sessions.insert changed.id changed else sessions
  | none => sessions

/-- Runs a process in an exchange. The exchange takes up what the host keeps, and the host keeps
what the exchange leaves behind, also if the process is abandoned. -/
def run (host : Host State) (process : Dispatching State α)
    (exchange : Exchange State) : (Option α × Exchange State) × Host State :=
  let exchange := { exchange with state := host.state, drained := host.drained }
  let (result, after) := process (.start exchange host.memories)
  ((result, after.exchange),
    { state := after.exchange.state, memories := after.memories
      sessions := keepSession host.sessions after.exchange.session
      drained := after.exchange.drained })

end Host
end RequestDispatch
