import RequestDispatch.Proofs.Dispatch.Compilation
import RequestDispatch.Proofs.Route.Match

/-!
Which method serves a request. The choice within each controller and then between controllers is
one choice among all methods: the first of the greatest rank, in the order in which the controllers
and their methods are declared.
-/

namespace RequestDispatch

variable {State : Type}

namespace Dispatcher

def methods (dispatcher : Dispatcher State) : List (ControllerHandler State × Invocation State) :=
  dispatcher.handlers.flatMap fun handler =>
    handler.invocations.map fun invocation => (handler, invocation)

theorem select_append {dispatcher larger : Dispatcher State} {handler : ControllerHandler State}
    (more : larger.handlers = dispatcher.handlers ++ [handler]) (request : Request)
    (path : String) :
    larger.select request path =
      best (dispatcher.select request path)
        ((handler.find? request path).map
          (Prod.map (fun invocation => (handler, invocation)) id)) := by
  rw [select, more, List.foldl_append, List.foldl_cons, List.foldl_nil]
  rfl

theorem find_eq (handler : ControllerHandler State) (request : Request) (path : String) :
    (handler.find? request path).map (Prod.map (fun invocation => (handler, invocation)) id) =
      bestOf (fun choice : ControllerHandler State × Invocation State =>
        choice.2.test request path) (handler.invocations.map fun invocation =>
          (handler, invocation)) := by
  rw [best_of_map, ControllerHandler.find?]

/-- Choosing in two steps is choosing once. -/
theorem select_flat (dispatcher : Dispatcher State) (request : Request) (path : String) :
    dispatcher.select request path =
      bestOf (fun choice => choice.2.test request path) dispatcher.methods := by
  obtain ⟨handlers, same⟩ : ∃ handlers, dispatcher.handlers = handlers := ⟨_, rfl⟩
  induction handlers using List.reverseRecOn generalizing dispatcher with
  | nil => simp [select, methods, same, bestOf]
  | append_singleton handlers handler ih =>
      have fewer := ih { dispatcher with handlers := handlers } rfl
      have more : dispatcher.handlers =
          ({ dispatcher with handlers := handlers } : Dispatcher State).handlers ++ [handler] :=
        same
      rw [select_append more, fewer, find_eq, ← best_of_append]
      simp [methods, same]

theorem select_takes {dispatcher : Dispatcher State} {request : Request} {path : String}
    {handler : ControllerHandler State} {invocation : Invocation State} {found : MatchResult}
    (selected : dispatcher.select request path = some ((handler, invocation), found)) :
    handler ∈ dispatcher.handlers ∧ invocation ∈ handler.invocations ∧
      invocation.test request path = some found := by
  rw [select_flat, best_of_eq_some] at selected
  obtain ⟨choice, member, tested⟩ := List.mem_filterMap.1 selected.mem
  obtain ⟨result, accepted, same⟩ := Option.map_eq_some_iff.1 tested
  cases same
  obtain ⟨owner, known, listed⟩ := List.mem_flatMap.1 member
  obtain ⟨own, within, same⟩ := List.mem_map.1 listed
  cases same
  exact ⟨known, within, accepted⟩

theorem select_declared {definition : DispatcherDefinition State} {place : Nat}
    {dispatcher : Dispatcher State} (built : definition.build place = .ok dispatcher)
    {request : Request} {path : String} {handler : ControllerHandler State}
    {invocation : Invocation State} {found : MatchResult}
    (selected : dispatcher.select request path = some ((handler, invocation), found)) :
    ∃ controller ∈ definition.controllers, ∃ method ∈ controller.methods,
      handler.type = controller.type ∧ method.Keeps controller.type invocation := by
  obtain ⟨known, within, -⟩ := select_takes selected
  obtain ⟨controller, declared, compiles⟩ := source_of_mem (build_in_order built) known
  obtain ⟨method, named, made⟩ := source_of_mem compiles.methods within
  exact ⟨controller, declared, method, named, compiles.type, made.keeps⟩

/-- A further controller serves a request only if its own best method is strictly better. -/
theorem select_further {dispatcher larger : Dispatcher State} {handler : ControllerHandler State}
    (more : larger.handlers = dispatcher.handlers ++ [handler]) (request : Request)
    (path : String) :
    larger.select request path = dispatcher.select request path ∨
      ∃ invocation found, handler.find? request path = some (invocation, found) ∧
        larger.select request path = some ((handler, invocation), found) ∧
        ∀ current, dispatcher.select request path = some current →
          current.2.rank < found.rank := by
  rw [select_append more]
  cases found : handler.find? request path with
  | none =>
      left
      exact best_none _
  | some candidate =>
      obtain ⟨invocation, result⟩ := candidate
      rw [Option.map_some]
      cases selected : dispatcher.select request path with
      | none => exact .inr ⟨invocation, result, rfl, rfl, by simp⟩
      | some current =>
          rw [best_some]
          split
          · next less =>
            right
            refine ⟨invocation, result, rfl, rfl, ?_⟩
            intro other same
            cases same
            exact less
          · left
            rfl

end Dispatcher

/-- A request is served by the first method of the greatest rank among all that match, and by none
only if none matches. Methods are in the order of their declaration, so that a further controller
serves a request only if its match is strictly better than the one that was chosen before. -/
theorem select_first_best (dispatcher : Dispatcher State) (request : Request) (path : String) :
    (dispatcher.select request path = none ↔
      ∀ handler ∈ dispatcher.handlers, ∀ invocation ∈ handler.invocations,
        invocation.test request path = none) ∧
    (∀ chosen, dispatcher.select request path = some chosen ↔
      FirstBest (accepted (fun choice => choice.2.test request path) dispatcher.methods) chosen) ∧
    dispatcher.select request path =
      bestOf (fun choice => choice.2.test request path) dispatcher.methods ∧
    (∀ (definition : DispatcherDefinition State) (place : Nat),
      definition.build place = .ok dispatcher →
        List.Forall₂ ControllerDefinition.Compiles definition.controllers dispatcher.handlers ∧
        ∀ (controller : ControllerDefinition State) (larger : Dispatcher State),
          ({ definition with controllers := definition.controllers ++ [controller] } :
            DispatcherDefinition State).build place = .ok larger →
            ∃ handler, larger.handlers = dispatcher.handlers ++ [handler]) ∧
    ∀ (larger : Dispatcher State) (handler : ControllerHandler State),
      larger.handlers = dispatcher.handlers ++ [handler] →
      larger.select request path = dispatcher.select request path ∨
        ∃ invocation found, handler.find? request path = some (invocation, found) ∧
          larger.select request path = some ((handler, invocation), found) ∧
          ∀ current, dispatcher.select request path = some current →
            current.2.rank < found.rank := by
  refine ⟨?_, ?_, dispatcher.select_flat request path, ?_, ?_⟩
  · rw [Dispatcher.select_flat, best_of_eq_none]
    simp only [Dispatcher.methods, List.forall_mem_flatMap, List.forall_mem_map]
  · intro chosen
    rw [Dispatcher.select_flat, best_of_eq_some]
  · intro definition place built
    refine ⟨build_in_order built, ?_⟩
    intro controller larger more
    obtain ⟨same, handler, known, handlers⟩ := build_append more
    rw [built] at known
    cases known
    exact ⟨handler, handlers⟩
  · intro larger handler more
    exact Dispatcher.select_further more request path

end RequestDispatch
