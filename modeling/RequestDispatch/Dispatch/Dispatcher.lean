import RequestDispatch.Dispatch.Handler
import RequestDispatch.Failure.Response
import RequestDispatch.Settings.Environment

/-!
The dispatcher. It chooses the method that matches a request best, binds the variables of the path,
takes the arguments from the exchange, runs the method inside its interceptors, and turns the value
or the fault it ends with into a response. Handlers may have further paths served in the same
exchange, each in a scope of path bindings of its own.
-/

namespace RequestDispatch

/-- What a dispatcher changes while it works: what conversions and chains it has found, and the
beans its factories have made. -/
structure Memory (State : Type) where
  conversion : ConversionService
  container : Container (Bean State)
  chains : ChainCache State

structure Dispatcher (State : Type) where
  /-- Tells the dispatcher from others of the same application. -/
  place : Nat
  pathPrefix : String
  handlers : List (ControllerHandler State)
  registry : InvocationRegistry State
  chains : ChainFactory
  exceptionHandlers : List (TypeKey × ExceptionHandler State)
  views : Option Renderer
  errorDetails : Bool
  /-- How deep paths may be nested in one another; what goes deeper is abandoned. -/
  nestingLimit : Nat
  /-- The memory of the dispatcher before its first request. -/
  initial : Memory State

/-- The world of dispatchers: an exchange, the dispatcher that nested paths go to, and what the
dispatchers remember, by their places. -/
structure DispatchContext (State : Type) where
  exchange : Exchange State
  attached : Option (Dispatcher State)
  memories : List (Nat × Memory State)

abbrev Dispatching (State α : Type) := Process (DispatchContext State) α

namespace DispatchContext

variable {State α : Type}

def start (exchange : Exchange State) (memories : List (Nat × Memory State)) :
    DispatchContext State :=
  ⟨exchange, none, memories⟩

def exchangePart : Part (DispatchContext State) (Exchange State) :=
  ⟨exchange, fun exchange context => { context with exchange := exchange }⟩

def statePart : Part (DispatchContext State) State :=
  ⟨fun context => context.exchange.state, fun state context =>
    { context with exchange := { context.exchange with state := state } }⟩

def memory (context : DispatchContext State) (dispatcher : Dispatcher State) : Memory State :=
  (context.memories.lookup dispatcher.place).getD dispatcher.initial

def setMemory (context : DispatchContext State) (dispatcher : Dispatcher State)
    (memory : Memory State) : DispatchContext State :=
  { context with
    memories := (dispatcher.place, memory) ::
      context.memories.filter fun entry => entry.1 != dispatcher.place }

/-- Runs a process in a scope of path bindings of its own, which is left however the process
ends. -/
def inScope (bindings : PathBindings) (process : Dispatching State α) :
    Dispatching State α := fun context =>
  let opened := context.exchange.pushBindings bindings
  let (result, after) := process { context with exchange := opened }
  (result, { after with exchange := after.exchange.leaveScope opened.bindings.depth })

def change (step : Exchange State → α × Exchange State) : Dispatching State α :=
  fun context =>
    let (result, exchange) := step context.exchange
    (some result, { context with exchange := exchange })

def refuseNested (_ : String) : Dispatching State (Except DispatchError Unit) :=
  .done (.error (.configuration .includeOutsideDispatch))

end DispatchContext

/-- A prefix of paths in its normal form: it starts with a slash and does not end with one, and the
root is empty. -/
def normalizePrefix (text : String) : String :=
  let trimmed := Text.trimBoth (· = '/') (Text.trim text).toList
  if trimmed.isEmpty then "" else String.ofList ('/' :: trimmed)

/-- The path behind a prefix, which must end where a segment ends. -/
def pathBehind? (pathPrefix path : String) : Option String :=
  match Text.dropBeginning pathPrefix.toList path.toList with
  | some [] => some "/"
  | some ('/' :: rest) => some (String.ofList ('/' :: rest))
  | _ => none

/-- Takes values from an exchange in turn; the first failure, or the first fetch that is abandoned,
ends it. -/
def fetchAll {State : Type} (exchange : Exchange State) :
    List Fetcher → Memory State → Option (Except DispatchError (List Value)) × Memory State
  | [], memory => (some (.ok []), memory)
  | fetcher :: rest, memory =>
    let (fetched, conversion, container) :=
      fetcher.fetch Bean.object exchange memory.conversion memory.container
    let memory := { memory with conversion := conversion, container := container }
    match fetched with
    | none => (none, memory)
    | some (.error error) => (some (.error error), memory)
    | some (.ok value) =>
      let (others, memory) := fetchAll exchange rest memory
      (others.map fun values => values.map (value :: ·), memory)

namespace Dispatcher

variable {State : Type}

def invocation? (dispatcher : Dispatcher State) (method : MethodKey) : Option (Invocation State) :=
  dispatcher.registry.lookup method

def relativePath? (dispatcher : Dispatcher State) (path : String) : Option String :=
  pathBehind? dispatcher.pathPrefix path

def select (dispatcher : Dispatcher State) (request : Request) (path : String) :
    Option ((ControllerHandler State × Invocation State) × MatchResult) :=
  dispatcher.handlers.foldl (fun current handler =>
    best current ((handler.find? request path).map fun (invocation, found) =>
      ((handler, invocation), found))) none

def fetchArguments (dispatcher : Dispatcher State) (invocation : Invocation State) :
    Dispatching State (Except DispatchError Arguments) := fun context =>
  let (fetched, memory) := fetchAll context.exchange invocation.fetchers (context.memory dispatcher)
  (fetched.map fun values => values.map Arguments.mk, context.setMemory dispatcher memory)

def chainFor (dispatcher : Dispatcher State) (method : MethodKey) :
    Dispatching State (Except DispatchError (InterceptorChain State)) :=
  fun context =>
    let memory := context.memory dispatcher
    let (chain, cache, container) :=
      dispatcher.chains.chainFor method memory.chains memory.container
    (some (chain.mapError .interception),
      context.setMemory dispatcher { memory with chains := cache, container := container })

/-- Turns the fault of a method into a failure. A failure that was passed on as a fault is the same
failure again; otherwise the handler for its exact kind is asked. -/
def settle (dispatcher : Dispatcher State)
    (nested : String → Dispatching State (Except DispatchError Unit)) :
    Fault → Dispatching State (Except DispatchError Unit)
  | .dispatch error => .done (.error error)
  | fault =>
    match dispatcher.exceptionHandlers.lookup fault.kind with
    | none => .done (.error (.handler fault))
    | some handler =>
      ((handler fault).run DispatchContext.exchangePart nested).andThen fun handled =>
        .done (.error (if handled then .handled else .handler fault))

def serve (dispatcher : Dispatcher State)
    (nested : String → Dispatching State (Except DispatchError Unit))
    (controller : TypeKey) (invocation : Invocation State) (found : MatchResult) :
    Dispatching State (Except DispatchError Unit) :=
  (dispatcher.fetchArguments invocation).andThen fun
    | .error error => .done (.error error)
    | .ok arguments =>
      (dispatcher.chainFor invocation.method).andThen fun
        | .error error => .done (.error error)
        | .ok chain =>
          let terminal (arguments : Arguments) : Dispatching State CallResult :=
            (invocation.call controller arguments).run DispatchContext.exchangePart nested
          (chain.execute DispatchContext.statePart terminal invocation.argumentNames
            arguments).andThen fun
            | .ok value =>
              DispatchContext.change
                (Outcome.applyFirst dispatcher.views found.defaultView value invocation.outcomes)
            | .error fault => dispatcher.settle nested fault

/-- Serves a path with a dispatcher. Nested paths go to the attached dispatcher, and each takes one
from the limit. -/
def runWithin : Nat → Dispatcher State → String →
    Dispatching State (Except DispatchError Unit)
  | 0, _, _ => .abandon
  | limit + 1, dispatcher, path => fun context =>
    let request := context.exchange.request
    match dispatcher.select request path with
    | none => (some (.error (.notFound request.method path)), context)
    | some ((handler, invocation), found) =>
      let nested (path : String) : Dispatching State (Except DispatchError Unit) :=
        fun context =>
          match context.attached with
          | none => DispatchContext.refuseNested path context
          | some attached => runWithin limit attached path context
      DispatchContext.inScope found.bindings
        (dispatcher.serve nested handler.type invocation found) context

def includePath (dispatcher : Dispatcher State) (path : String) :
    Dispatching State (Except DispatchError Unit) :=
  runWithin (dispatcher.nestingLimit + 1) dispatcher path

/-- Dispatches the request of the exchange. The first dispatcher of an exchange is the one that
nested paths go to. A fault that has been handled is no failure. -/
def dispatch (dispatcher : Dispatcher State) :
    Dispatching State (Except DispatchError Unit) := fun context =>
  let context := { context with attached := context.attached.or (some dispatcher) }
  let request := context.exchange.request
  match dispatcher.relativePath? request.path with
  | none => (some (.error (.notFound request.method request.path)), context)
  | some path =>
    match dispatcher.includePath path context with
    | (some (.error .handled), context) => (some (.ok ()), context)
    | (result, context) => (result, context)

def reportFailure (timestamp : String) (expose : Bool) (error : DispatchError)
    (exchange : Exchange State) : Exchange State :=
  let report := ErrorResponse.ofFailure timestamp error exchange.request.path expose
  exchange.respond fun sink =>
    ((sink.reset.setStatus report.statusCode).defaultContentType "application/json").write
      report.body

def service (dispatcher : Dispatcher State) (timestamp : String) :
    Dispatching State Unit :=
  dispatcher.dispatch.andThen fun
    | .ok () => .done ()
    | .error error =>
      DispatchContext.change fun exchange =>
        ((), reportFailure timestamp dispatcher.errorDetails error exchange)

end Dispatcher

structure DispatcherDefinition (State : Type) where
  pathPrefix : String
  controllers : List (ControllerDefinition State)
  hierarchy : TypeHierarchy
  conversion : ConversionService
  container : Container (Bean State)
  declarations : InterceptorDeclarations
  exceptionHandlers : List (TypeKey × ExceptionHandler State)
  views : Option Renderer
  errorDetails : Bool
  nestingLimit : Nat

namespace DispatcherDefinition

variable {State : Type}

def empty : DispatcherDefinition State :=
  { pathPrefix := "", controllers := [], hierarchy := .standard, conversion := .standard .standard
    container := .empty, declarations := .empty, exceptionHandlers := [], views := none
    errorDetails := false, nestingLimit := 1000 }

def ofEnvironment (environment : Environment) : DispatcherDefinition State :=
  { empty with
    pathPrefix := environment.text "dispatcher.prefix" ""
    errorDetails := environment.bool "dispatcher.error-details" false }

def onFault (definition : DispatcherDefinition State) (kind : TypeKey)
    (handler : ExceptionHandler State) : DispatcherDefinition State :=
  { definition with
    exceptionHandlers := replaceEntry kind handler definition.exceptionHandlers }

/-- Builds the dispatcher for a place. Every type of controller may be declared once. -/
def build (definition : DispatcherDefinition State) (place : Nat) :
    Except ConfigurationProblem (Dispatcher State) :=
  match ControllerDefinition.firstDuplicate [] definition.controllers with
  | some type => .error (.duplicateController type.simpleName)
  | none =>
    match ControllerDefinition.compileAll definition.controllers ⟨definition.conversion, []⟩ with
    | (.error problem, _) => .error problem
    | (.ok handlers, compiled) =>
      .ok { place := place, pathPrefix := normalizePrefix definition.pathPrefix
            handlers := handlers, registry := compiled.registry
            chains := ⟨definition.declarations, definition.hierarchy⟩
            exceptionHandlers := definition.exceptionHandlers, views := definition.views
            errorDetails := definition.errorDetails, nestingLimit := definition.nestingLimit
            initial := ⟨compiled.service, definition.container, []⟩ }

end DispatcherDefinition
end RequestDispatch
