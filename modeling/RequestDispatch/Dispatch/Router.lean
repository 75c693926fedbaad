import RequestDispatch.Dispatch.Dispatcher

/-!
The router: it gives each request to the dispatcher whose prefix fits the path and is the longest.
-/

namespace RequestDispatch

/-- Dispatchers from the longest prefix to the shortest; those with prefixes of one length stand in
the order in which they were added. -/
structure DispatcherRouter (State : Type) where
  dispatchers : List (Dispatcher State)
  errorDetails : Bool

namespace DispatcherRouter

variable {State : Type}

def empty : DispatcherRouter State := ⟨[], false⟩

/-- Adds a dispatcher. Details of failures are shown if one of the dispatchers shows them. -/
def add (router : DispatcherRouter State) (dispatcher : Dispatcher State) :
    DispatcherRouter State :=
  { dispatchers := (router.dispatchers ++ [dispatcher]).mergeSort fun first second =>
      second.pathPrefix.utf8ByteSize ≤ first.pathPrefix.utf8ByteSize
    errorDetails := router.errorDetails || dispatcher.errorDetails }

def route (router : DispatcherRouter State) (path : String) : Option (Dispatcher State) :=
  router.dispatchers.find? fun dispatcher => (dispatcher.relativePath? path).isSome

def service (router : DispatcherRouter State) (timestamp : String) :
    Dispatching State Unit := fun context =>
  let request := context.exchange.request
  match router.route request.path with
  | some dispatcher => dispatcher.service timestamp context
  | none =>
    let error := DispatchError.notFound request.method request.path
    DispatchContext.change
      (fun exchange =>
        ((), Dispatcher.reportFailure timestamp router.errorDetails error exchange)) context

end DispatcherRouter
end RequestDispatch
