import RequestDispatch.Binding.Fetcher
import RequestDispatch.Dispatch.Program
import RequestDispatch.Interception.Chain
import RequestDispatch.Result.Outcome
import RequestDispatch.Route.Match

/-!
Handler methods and controllers, as they are declared and as they are compiled. All that can be
wrong with a declaration is found when it is compiled.
-/

namespace RequestDispatch

/-- A method of a controller as it is declared. The target is the type of controller that it is
written for. -/
structure HandlerMethod (State : Type) where
  name : String
  route : RouteDeclaration
  parameters : List Parameter
  outcomes : List Outcome
  defaultView : Option String
  target : TypeKey
  body : HandlerBody State

structure ControllerDefinition (State : Type) where
  type : TypeKey
  methods : List (HandlerMethod State)

structure Invocation (State : Type) where
  method : MethodKey
  mapping : RouteMapping
  fetchers : List Fetcher
  argumentNames : List String
  outcomes : List Outcome
  defaultView : Option String
  target : TypeKey
  body : HandlerBody State

structure ControllerHandler (State : Type) where
  type : TypeKey
  invocations : List (Invocation State)

abbrev InvocationRegistry (State : Type) := List (MethodKey × Invocation State)

def compileParameters (mapping : RouteMapping) :
    List Parameter → ConversionService →
      Except ConfigurationProblem (List Fetcher) × ConversionService
  | [], service => (.ok [], service)
  | parameter :: rest, service =>
    match parameter.fetcher mapping service with
    | (.error problem, service) => (.error problem, service)
    | (.ok fetcher, service) =>
      match compileParameters mapping rest service with
      | (.error problem, service) => (.error problem, service)
      | (.ok fetchers, service) => (.ok (fetcher :: fetchers), service)

namespace Invocation

variable {State : Type}

def test (invocation : Invocation State) (request : Request) (path : String) : Option MatchResult :=
  (invocation.mapping.test request path).map fun (found, confidence) =>
    ⟨found, confidence, invocation.defaultView⟩

def call (invocation : Invocation State) (controller : TypeKey) (arguments : Arguments) :
    Program State CallResult :=
  if controller = invocation.target then invocation.body arguments
  else .finish (.error (.wrongTarget invocation.target.name))

def inspectOutcomes (invocation : Invocation State) : String :=
  "[" ++ ", ".intercalate (invocation.outcomes.map Outcome.inspect) ++ "]"

end Invocation

namespace HandlerMethod

variable {State : Type}

def compile (method : HandlerMethod State) (owner : TypeKey) (service : ConversionService) :
    Except ConfigurationProblem (Invocation State) × ConversionService :=
  let key : MethodKey := ⟨owner, method.name⟩
  match method.route.compile with
  | .error problem => (.error (.route problem), service)
  | .ok mapping =>
    match compileParameters mapping method.parameters service with
    | (.error problem, service) => (.error (.within key problem), service)
    | (.ok fetchers, service) =>
      (.ok { method := key, mapping := mapping, fetchers := fetchers
             argumentNames := method.parameters.map Parameter.name
             outcomes := Outcome.sort method.outcomes, defaultView := method.defaultView
             target := method.target, body := method.body }, service)

end HandlerMethod

namespace ControllerHandler

variable {State : Type}

def find? (handler : ControllerHandler State) (request : Request) (path : String) :
    Option (Invocation State × MatchResult) :=
  bestOf (fun invocation => invocation.test request path) handler.invocations

def inspect (handler : ControllerHandler State) : String :=
  "ControllerHandler \x7b type: TypeKey(" ++ handler.type.name ++ "), methods: " ++
    Text.quotedList (handler.invocations.map fun invocation => invocation.method.name) ++ " \x7d"

end ControllerHandler

structure Compilation (State : Type) where
  service : ConversionService
  registry : InvocationRegistry State

/-- The compiled method of a declaration: the one that was compiled under its key before, or else a
new one, which is registered. -/
def Compilation.invocation {State : Type} (state : Compilation State) (owner : TypeKey)
    (method : HandlerMethod State) :
    Except ConfigurationProblem (Invocation State) × Compilation State :=
  let key : MethodKey := ⟨owner, method.name⟩
  match state.registry.lookup key with
  | some known => (.ok known, state)
  | none =>
    match method.compile owner state.service with
    | (.error problem, service) => (.error problem, { state with service := service })
    | (.ok invocation, service) =>
      (.ok invocation, ⟨service, state.registry ++ [(key, invocation)]⟩)

namespace ControllerDefinition

variable {State : Type}

def compileMethods (owner : TypeKey) (seen : List String) :
    List (HandlerMethod State) → Compilation State →
      Except ConfigurationProblem (List (Invocation State)) × Compilation State
  | [], state => (.ok [], state)
  | method :: rest, state =>
    if seen.contains method.name then
      (.error (.duplicateMethod method.name owner.simpleName), state)
    else
      match state.invocation owner method with
      | (.error problem, state) => (.error problem, state)
      | (.ok invocation, state) =>
        match compileMethods owner (method.name :: seen) rest state with
        | (.error problem, state) => (.error problem, state)
        | (.ok invocations, state) => (.ok (invocation :: invocations), state)

def compile (definition : ControllerDefinition State) (state : Compilation State) :
    Except ConfigurationProblem (ControllerHandler State) × Compilation State :=
  let (compiled, state) := compileMethods definition.type [] definition.methods state
  (compiled.map fun invocations => ⟨definition.type, invocations⟩, state)

def compileAll :
    List (ControllerDefinition State) → Compilation State →
      Except ConfigurationProblem (List (ControllerHandler State)) × Compilation State
  | [], state => (.ok [], state)
  | definition :: rest, state =>
    match definition.compile state with
    | (.error problem, state) => (.error problem, state)
    | (.ok handler, state) =>
      match compileAll rest state with
      | (.error problem, state) => (.error problem, state)
      | (.ok handlers, state) => (.ok (handler :: handlers), state)

def firstDuplicate (seen : List TypeKey) : List (ControllerDefinition State) → Option TypeKey
  | [] => none
  | definition :: rest =>
    if seen.contains definition.type then some definition.type
    else firstDuplicate (definition.type :: seen) rest

end ControllerDefinition
end RequestDispatch
