import RequestDispatch.Proofs.Dispatch.Compilation
import RequestDispatch.Proofs.Route.Joined

/-!
Declarations with a prefix written into each template. They compile step by step as the
declarations themselves do: one is refused where the other is, and what is compiled differs in its
routes alone. Only the texts of errors tell the two apart, so results are compared without them
(`finished`). The main statement is `build_joined`.
-/

namespace RequestDispatch

variable {State : Type} {front : String}

def finished {Error Held Result : Type} (outcome : Except Error Result × Held) :
    Option (Result × Held) :=
  outcome.1.toOption.map fun result => (result, outcome.2)

theorem finished_fetcher (mapping : RouteMapping) (parameter : Parameter)
    (service : ConversionService) :
    finished (parameter.fetcher (mapping.under front) service) =
      finished (parameter.fetcher mapping service) := by
  unfold Parameter.fetcher
  cases parameter.binding with
  | pathVariable name =>
      dsimp only
      rw [mapping.under_declares]
      cases mapping.declaresVariable name <;> rfl
  | _ => rfl

theorem finished_parameters_cons (mapping : RouteMapping) (parameter : Parameter)
    (parameters : List Parameter) (service : ConversionService) :
    finished (compileParameters mapping (parameter :: parameters) service) =
      (finished (parameter.fetcher mapping service)).bind fun first =>
        (finished (compileParameters mapping parameters first.2)).map
          (Prod.map (first.1 :: ·) id) := by
  rw [compileParameters]
  obtain ⟨fetcher, next⟩ := parameter.fetcher mapping service
  cases fetcher with
  | error problem => rfl
  | ok fetcher =>
      dsimp only [finished, Except.toOption, Option.map_some, Option.bind_some]
      obtain ⟨fetchers, last⟩ := compileParameters mapping parameters next
      cases fetchers <;> rfl

theorem finished_parameters_under (mapping : RouteMapping) (parameters : List Parameter)
    (service : ConversionService) :
    finished (compileParameters (mapping.under front) parameters service) =
      finished (compileParameters mapping parameters service) := by
  induction parameters generalizing service with
  | nil => rfl
  | cons parameter parameters ih =>
      rw [finished_parameters_cons, finished_parameters_cons, finished_fetcher]
      apply congrArg (Option.bind _)
      funext first
      rw [ih first.2]

namespace Invocation

def under (front : String) (invocation : Invocation State) : Invocation State :=
  { invocation with mapping := invocation.mapping.under front }

theorem under_tests (invocation : Invocation State) (request : Request) (path : String) :
    (invocation.under front).test request path =
      (PathPattern.behind? front path).bind (invocation.test request) := by
  unfold test under
  rw [RouteMapping.under_tests]
  cases PathPattern.behind? front path <;> rfl

end Invocation

namespace HandlerMethod

def under (front : String) (method : HandlerMethod State) : HandlerMethod State :=
  { method with route := method.route.under front }

theorem finished_compile (method : HandlerMethod State) (owner : TypeKey)
    (service : ConversionService) :
    finished (method.compile owner service) = method.route.compile.toOption.bind fun mapping =>
      (finished (compileParameters mapping method.parameters service)).map fun fetched =>
        ({ method := ⟨owner, method.name⟩, mapping := mapping, fetchers := fetched.1
           argumentNames := method.parameters.map Parameter.name
           outcomes := Outcome.sort method.outcomes, defaultView := method.defaultView
           target := method.target, body := method.body }, fetched.2) := by
  unfold compile
  cases method.route.compile with
  | error problem => rfl
  | ok mapping =>
      dsimp only [Except.toOption, Option.bind_some]
      obtain ⟨fetchers, next⟩ := compileParameters mapping method.parameters service
      cases fetchers <;> rfl

theorem finished_compile_under (plain : Braceless front) (method : HandlerMethod State)
    (owner : TypeKey) (service : ConversionService) :
    finished ((method.under front).compile owner service) =
      (finished (method.compile owner service)).map (Prod.map (Invocation.under front) id) := by
  rw [finished_compile, finished_compile]
  change (method.route.under front).compile.toOption.bind _ = _
  rw [RouteDeclaration.compile_under plain]
  cases method.route.compile.toOption with
  | none => rfl
  | some mapping =>
      dsimp only [Option.map_some, Option.bind_some, under]
      rw [finished_parameters_under, Option.map_map]
      rfl

end HandlerMethod

namespace Compilation

def under (front : String) (state : Compilation State) : Compilation State :=
  { state with registry := state.registry.map (Prod.map id (Invocation.under front)) }

theorem lookup_under (registry : InvocationRegistry State) (key : MethodKey) :
    (registry.map (Prod.map id (Invocation.under front))).lookup key =
      (registry.lookup key).map (Invocation.under front) := by
  induction registry with
  | nil => rfl
  | cons entry registry ih =>
      rw [List.map_cons, List.lookup_cons, List.lookup_cons, ih]
      dsimp only [Prod.map, id_eq]
      cases key == entry.1 <;> rfl

theorem finished_invocation (state : Compilation State) (owner : TypeKey)
    (method : HandlerMethod State) :
    finished (state.invocation owner method) =
      match state.registry.lookup ⟨owner, method.name⟩ with
      | some known => some (known, state)
      | none => (finished (method.compile owner state.service)).map fun made =>
          (made.1, ⟨made.2, state.registry ++ [(⟨owner, method.name⟩, made.1)]⟩) := by
  unfold invocation
  dsimp only
  cases state.registry.lookup ⟨owner, method.name⟩ with
  | some known => rfl
  | none =>
      dsimp only
      obtain ⟨invocation, next⟩ := method.compile owner state.service
      cases invocation <;> rfl

theorem finished_invocation_under (plain : Braceless front) (state : Compilation State)
    (owner : TypeKey) (method : HandlerMethod State) :
    finished ((state.under front).invocation owner (method.under front)) =
      (finished (state.invocation owner method)).map
        (Prod.map (Invocation.under front) (under front)) := by
  rw [finished_invocation, finished_invocation]
  change (match (state.under front).registry.lookup ⟨owner, method.name⟩ with
    | some known => _
    | none => _) = _
  rw [under, lookup_under]
  cases state.registry.lookup ⟨owner, method.name⟩ with
  | some known => rfl
  | none =>
      dsimp only [Option.map_none]
      rw [HandlerMethod.finished_compile_under plain, Option.map_map, Option.map_map]
      apply congrArg (Option.map · _)
      funext made
      simp [under, HandlerMethod.under]

end Compilation

namespace ControllerDefinition

def under (front : String) (definition : ControllerDefinition State) :
    ControllerDefinition State :=
  { definition with methods := definition.methods.map (HandlerMethod.under front) }

theorem finished_methods_cons (owner : TypeKey) (seen : List String) (method : HandlerMethod State)
    (methods : List (HandlerMethod State)) (state : Compilation State) :
    finished (compileMethods owner seen (method :: methods) state) =
      if seen.contains method.name then none
      else (finished (state.invocation owner method)).bind fun made =>
        (finished (compileMethods owner (method.name :: seen) methods made.2)).map
          (Prod.map (made.1 :: ·) id) := by
  rw [compileMethods]
  split
  · rfl
  · obtain ⟨invocation, next⟩ := state.invocation owner method
    cases invocation with
    | error problem => rfl
    | ok invocation =>
        dsimp only [finished, Except.toOption, Option.map_some, Option.bind_some]
        obtain ⟨others, last⟩ := compileMethods owner (method.name :: seen) methods next
        cases others <;> rfl

theorem finished_methods_under (plain : Braceless front) (owner : TypeKey) (seen : List String)
    (methods : List (HandlerMethod State)) (state : Compilation State) :
    finished (compileMethods owner seen (methods.map (HandlerMethod.under front))
        (state.under front)) =
      (finished (compileMethods owner seen methods state)).map
        (Prod.map (List.map (Invocation.under front)) (Compilation.under front)) := by
  induction methods generalizing seen state with
  | nil => rfl
  | cons method methods ih =>
      rw [List.map_cons, finished_methods_cons, finished_methods_cons,
        Compilation.finished_invocation_under plain]
      change (if seen.contains method.name then _ else _) = _
      split
      · rfl
      · cases finished (state.invocation owner method) with
        | none => rfl
        | some made =>
            dsimp only [Option.map_some, Option.bind_some, Prod.map]
            rw [show (method.under front).name = method.name from rfl, ih, Option.map_map,
              Option.map_map]
            rfl

theorem finished_compile (definition : ControllerDefinition State) (state : Compilation State) :
    finished (definition.compile state) =
      (finished (compileMethods definition.type [] definition.methods state)).map
        (Prod.map (fun invocations => ⟨definition.type, invocations⟩) id) := by
  unfold compile
  obtain ⟨invocations, last⟩ := compileMethods definition.type [] definition.methods state
  cases invocations <;> rfl

end ControllerDefinition

def ControllerHandler.under (front : String) (handler : ControllerHandler State) :
    ControllerHandler State :=
  { handler with invocations := handler.invocations.map (Invocation.under front) }

namespace ControllerDefinition

theorem finished_compile_under (plain : Braceless front) (definition : ControllerDefinition State)
    (state : Compilation State) :
    finished ((definition.under front).compile (state.under front)) =
      (finished (definition.compile state)).map
        (Prod.map (ControllerHandler.under front) (Compilation.under front)) := by
  rw [finished_compile, finished_compile, under]
  dsimp only
  rw [finished_methods_under plain, Option.map_map, Option.map_map]
  rfl

theorem finished_all_cons (definition : ControllerDefinition State)
    (definitions : List (ControllerDefinition State)) (state : Compilation State) :
    finished (compileAll (definition :: definitions) state) =
      (finished (definition.compile state)).bind fun made =>
        (finished (compileAll definitions made.2)).map (Prod.map (made.1 :: ·) id) := by
  rw [compileAll]
  obtain ⟨handler, next⟩ := definition.compile state
  cases handler with
  | error problem => rfl
  | ok handler =>
      dsimp only [finished, Except.toOption, Option.map_some, Option.bind_some]
      obtain ⟨others, last⟩ := compileAll definitions next
      cases others <;> rfl

theorem finished_all_under (plain : Braceless front)
    (definitions : List (ControllerDefinition State)) (state : Compilation State) :
    finished (compileAll (definitions.map (under front)) (state.under front)) =
      (finished (compileAll definitions state)).map
        (Prod.map (List.map (ControllerHandler.under front)) (Compilation.under front)) := by
  induction definitions generalizing state with
  | nil => rfl
  | cons definition definitions ih =>
      rw [List.map_cons, finished_all_cons, finished_all_cons, finished_compile_under plain]
      cases finished (definition.compile state) with
      | none => rfl
      | some made =>
          dsimp only [Option.map_some, Option.bind_some, Prod.map]
          rw [ih, Option.map_map, Option.map_map]
          rfl

theorem first_duplicate_under (seen : List TypeKey)
    (definitions : List (ControllerDefinition State)) :
    firstDuplicate seen (definitions.map (under front)) = firstDuplicate seen definitions := by
  induction definitions generalizing seen with
  | nil => rfl
  | cons definition definitions ih =>
      rw [List.map_cons, firstDuplicate, firstDuplicate, ih]
      rfl

end ControllerDefinition

namespace DispatcherDefinition

def mounted (front : String) (definition : DispatcherDefinition State) :
    DispatcherDefinition State :=
  { definition with pathPrefix := front }

/-- The same controllers without a prefix, which is written into their templates. -/
def joined (front : String) (definition : DispatcherDefinition State) :
    DispatcherDefinition State :=
  { definition with
    pathPrefix := "", controllers := definition.controllers.map (ControllerDefinition.under front) }

end DispatcherDefinition

def Dispatcher.joined (front : String) (dispatcher : Dispatcher State) : Dispatcher State :=
  { dispatcher with
    pathPrefix := "", handlers := dispatcher.handlers.map (ControllerHandler.under front)
    registry := dispatcher.registry.map (Prod.map id (Invocation.under front)) }

namespace DispatcherDefinition

theorem to_option_build (definition : DispatcherDefinition State) (place : Nat) :
    (definition.build place).toOption =
      if (ControllerDefinition.firstDuplicate [] definition.controllers).isSome then none
      else (finished (ControllerDefinition.compileAll definition.controllers
          ⟨definition.conversion, []⟩)).map fun compiled =>
        { place := place, pathPrefix := normalizePrefix definition.pathPrefix
          handlers := compiled.1, registry := compiled.2.registry
          chains := ⟨definition.declarations, definition.hierarchy⟩
          exceptionHandlers := definition.exceptionHandlers, views := definition.views
          errorDetails := definition.errorDetails, nestingLimit := definition.nestingLimit
          initial := ⟨compiled.2.service, definition.container, []⟩ } := by
  unfold build
  cases ControllerDefinition.firstDuplicate [] definition.controllers with
  | some type => rfl
  | none =>
      dsimp only
      obtain ⟨handlers, last⟩ := ControllerDefinition.compileAll definition.controllers
        ⟨definition.conversion, []⟩
      cases handlers <;> rfl

theorem prefix_of_build {definition : DispatcherDefinition State} {place : Nat}
    {dispatcher : Dispatcher State} (built : definition.build place = .ok dispatcher) :
    dispatcher.pathPrefix = normalizePrefix definition.pathPrefix := by
  unfold build at built
  split at built
  · cases built
  · split at built
    · cases built
    · injection built with same
      rw [← same]

theorem normalize_empty : normalizePrefix "" = "" := by decide +kernel

/-- The two dispatchers are built or refused together. -/
theorem build_joined (plain : Braceless front) (definition : DispatcherDefinition State)
    (place : Nat) :
    ((definition.joined front).build place).toOption =
      ((definition.mounted front).build place).toOption.map (Dispatcher.joined front) := by
  have compiled := ControllerDefinition.finished_all_under plain definition.controllers
    ⟨definition.conversion, []⟩
  rw [to_option_build, to_option_build]
  unfold joined mounted
  dsimp only
  rw [ControllerDefinition.first_duplicate_under, normalize_empty]
  split
  · rfl
  · change Option.map _ (finished (ControllerDefinition.compileAll _
      (Compilation.under front ⟨definition.conversion, []⟩))) = _
    rw [compiled, Option.map_map, Option.map_map]
    rfl

end DispatcherDefinition
end RequestDispatch
