import RequestDispatch.Proofs.Dispatch.Selection
import RequestDispatch.Proofs.Type.Distance

/-!
What a dispatcher registers. The main statement is `build_shares_no_method`: a type of controller
that is declared twice and a method that is declared twice are refused, so that each method which is
registered is compiled from its own declaration, and is found under its key alone.
-/

namespace RequestDispatch

variable {State : Type}

namespace ControllerDefinition

theorem compile_methods_distinct {owner : TypeKey} {seen : List String}
    {methods : List (HandlerMethod State)} {state after : Compilation State}
    {invocations : List (Invocation State)}
    (compiled : compileMethods owner seen methods state = (.ok invocations, after)) :
    (methods.map HandlerMethod.name).Nodup ∧ ∀ method ∈ methods, method.name ∉ seen := by
  induction methods generalizing seen state invocations with
  | nil => simp
  | cons method methods ih =>
      obtain ⟨unseen, _, _, _, -, rest, -⟩ := compile_methods_cons compiled
      obtain ⟨distinct, later⟩ := ih rest
      simp only [List.mem_cons, not_or] at later
      constructor
      · rw [List.map_cons, List.nodup_cons]
        refine ⟨?_, distinct⟩
        intro repeated
        obtain ⟨other, member, same⟩ := List.mem_map.1 repeated
        exact (later other member).1 same
      · rw [List.forall_mem_cons]
        exact ⟨unseen, fun other member => (later other member).2⟩

theorem first_duplicate_none {seen : List TypeKey}
    {definitions : List (ControllerDefinition State)} :
    firstDuplicate seen definitions = none ↔
      (definitions.map type).Nodup ∧ ∀ definition ∈ definitions, definition.type ∉ seen := by
  induction definitions generalizing seen with
  | nil => simp [firstDuplicate]
  | cons definition definitions ih =>
      rw [first_duplicate_cons, ih, List.map_cons, List.nodup_cons, List.forall_mem_cons]
      simp only [List.mem_map, List.mem_cons, not_or, not_exists, not_and, forall_and]
      tauto

theorem first_duplicate_some {seen : List TypeKey}
    {definitions : List (ControllerDefinition State)} {type : TypeKey}
    (found : firstDuplicate seen definitions = some type) :
    ∃ definition ∈ definitions, definition.type = type := by
  induction definitions generalizing seen with
  | nil => cases found
  | cons definition definitions ih =>
      rw [firstDuplicate] at found
      split at found
      · cases found
        exact ⟨definition, List.mem_cons_self, rfl⟩
      · obtain ⟨other, member, same⟩ := ih found
        exact ⟨other, List.mem_cons_of_mem _ member, same⟩

theorem compile_all_distinct {definitions : List (ControllerDefinition State)}
    {state after : Compilation State} {handlers : List (ControllerHandler State)}
    (compiled : compileAll definitions state = (.ok handlers, after)) :
    ∀ definition ∈ definitions, (definition.methods.map HandlerMethod.name).Nodup := by
  induction definitions generalizing state handlers with
  | nil => simp
  | cons definition definitions ih =>
      obtain ⟨handler, next, others, made, rest, rfl⟩ := compile_all_cons compiled
      rw [ControllerDefinition.compile, Prod.mk.injEq] at made
      obtain ⟨invocations, own, -⟩ := map_eq_ok.1 made.1
      rw [List.forall_mem_cons]
      exact ⟨(compile_methods_distinct (Prod.ext own rfl)).1, ih rest⟩

theorem keys_in_turn {service last : ConversionService}
    {definitions : List (ControllerDefinition State)} {handlers : List (ControllerHandler State)}
    (inTurn : InTurn CompiledAs service definitions handlers last) :
    (handlers.flatMap ControllerHandler.entries).map Prod.fst = definitions.flatMap keys := by
  induction inTurn with
  | nil => rfl
  | cons made _ ih =>
      rw [List.flatMap_cons, List.map_append, made.keys_entries, ih, List.flatMap_cons]

theorem keys_distinct {definitions : List (ControllerDefinition State)}
    (types : (definitions.map type).Nodup)
    (names : ∀ definition ∈ definitions, (definition.methods.map HandlerMethod.name).Nodup) :
    (definitions.flatMap keys).Nodup := by
  rw [List.nodup_flatMap]
  constructor
  · intro definition member
    have keyed : definition.keys =
        (definition.methods.map HandlerMethod.name).map fun name => ⟨definition.type, name⟩ := by
      rw [keys, List.map_map]
      rfl
    rw [keyed]
    apply (names definition member).map
    intro first second same
    exact congrArg MethodKey.name same
  · apply (List.pairwise_map.1 types).imp
    intro first second differs key one two
    exact differs ((owner_of_mem_keys one).trans (owner_of_mem_keys two).symm)

end ControllerDefinition

namespace Dispatcher

theorem entries_methods (dispatcher : Dispatcher State) :
    dispatcher.handlers.flatMap ControllerHandler.entries =
      dispatcher.methods.map fun choice => (choice.2.method, choice.2) := by
  rw [methods, List.map_flatMap]
  congr 1
  funext handler
  rw [ControllerHandler.entries, List.map_map]
  rfl

theorem select_mem {dispatcher : Dispatcher State} {request : Request} {path : String}
    {choice : ControllerHandler State × Invocation State} {found : MatchResult}
    (selected : dispatcher.select request path = some (choice, found)) :
    choice ∈ dispatcher.methods := by
  obtain ⟨handler, invocation⟩ := choice
  obtain ⟨known, within, -⟩ := select_takes selected
  exact List.mem_flatMap.2 ⟨handler, known, List.mem_map_of_mem within⟩

end Dispatcher

/-- What a dispatcher that is built has made of its definition. -/
structure DispatcherDefinition.BuiltAs (definition : DispatcherDefinition State)
    (dispatcher : Dispatcher State) : Prop where
  types : (definition.controllers.map ControllerDefinition.type).Nodup
  names : ∀ controller ∈ definition.controllers,
    (controller.methods.map HandlerMethod.name).Nodup
  handlers : InTurn ControllerDefinition.CompiledAs definition.conversion definition.controllers
    dispatcher.handlers dispatcher.initial.conversion
  registry : dispatcher.registry =
    dispatcher.methods.map fun choice => (choice.2.method, choice.2)

namespace DispatcherDefinition

variable {definition : DispatcherDefinition State} {dispatcher : Dispatcher State}

theorem build_keeps {place : Nat} (built : definition.build place = .ok dispatcher) :
    definition.BuiltAs dispatcher := by
  obtain ⟨distinct, compiled⟩ := build_eq_ok built
  obtain ⟨inTurn, registered⟩ := ControllerDefinition.compile_all_in_turn distinct
    (fun _ _ _ => rfl) compiled
  refine ⟨(ControllerDefinition.first_duplicate_none.1 distinct).1,
    ControllerDefinition.compile_all_distinct compiled, inTurn, ?_⟩
  rw [← dispatcher.entries_methods]
  exact registered

namespace BuiltAs

theorem keys (made : definition.BuiltAs dispatcher) :
    dispatcher.registry.map Prod.fst =
      definition.controllers.flatMap ControllerDefinition.keys := by
  rw [made.registry, ← dispatcher.entries_methods]
  exact ControllerDefinition.keys_in_turn made.handlers

theorem distinct (made : definition.BuiltAs dispatcher) :
    (dispatcher.registry.map Prod.fst).Nodup := by
  rw [made.keys]
  exact ControllerDefinition.keys_distinct made.types made.names

theorem length (made : definition.BuiltAs dispatcher) :
    dispatcher.registry.length =
      (definition.controllers.flatMap ControllerDefinition.methods).length := by
  have counted := congrArg List.length made.keys
  rw [List.length_map, List.length_flatMap] at counted
  rw [counted, List.length_flatMap]
  simp only [ControllerDefinition.keys, List.length_map]

theorem find (made : definition.BuiltAs dispatcher)
    {choice : ControllerHandler State × Invocation State} (member : choice ∈ dispatcher.methods) :
    dispatcher.invocation? choice.2.method = some choice.2 := by
  apply lookup_of_distinct made.distinct
  rw [made.registry]
  exact List.mem_map_of_mem member

theorem only (made : definition.BuiltAs dispatcher)
    {one other : ControllerHandler State × Invocation State} (first : one ∈ dispatcher.methods)
    (second : other ∈ dispatcher.methods) (same : one.2.method = other.2.method) :
    one = other := by
  have distinct : (dispatcher.methods.map fun choice => choice.2.method).Nodup := by
    have keys := made.distinct
    rw [made.registry, List.map_map] at keys
    exact keys
  exact List.inj_on_of_nodup_map distinct first second same

end BuiltAs
end DispatcherDefinition

/-- Controllers of one type, and methods of one name in a controller, are not built. What is built
holds the controllers in their order, each with its methods in their order, and each method is
compiled from its own declaration, with the conversion service that the one before it leaves: it has
a fetcher for each of its parameters, made of it in its turn. As many methods are registered as are
declared, each under a key of its own; under the key of a declared method stands what is compiled
from it, and no other method with this key is ever chosen. -/
theorem build_shares_no_method (definition : DispatcherDefinition State) (place : Nat) :
    (¬(definition.controllers.map ControllerDefinition.type).Nodup →
      ∃ controller ∈ definition.controllers,
        definition.build place = .error (.duplicateController controller.type.simpleName)) ∧
    (∀ controller ∈ definition.controllers,
      ¬(controller.methods.map HandlerMethod.name).Nodup →
        ∃ problem, definition.build place = .error problem) ∧
    ∀ dispatcher, definition.build place = .ok dispatcher →
      InTurn ControllerDefinition.CompiledAs definition.conversion definition.controllers
        dispatcher.handlers dispatcher.initial.conversion ∧
      dispatcher.registry =
        dispatcher.methods.map (fun choice => (choice.2.method, choice.2)) ∧
      (dispatcher.registry.map Prod.fst).Nodup ∧
      dispatcher.registry.length =
        (definition.controllers.flatMap ControllerDefinition.methods).length ∧
      ∀ controller ∈ definition.controllers, ∀ method ∈ controller.methods,
        ∃ handler invocation before after, (handler, invocation) ∈ dispatcher.methods ∧
          handler.type = controller.type ∧
          method.CompiledAs controller.type before invocation after ∧
          InTurn (Parameter.CompiledAs invocation.mapping) before method.parameters
            invocation.fetchers after ∧
          dispatcher.invocation? ⟨controller.type, method.name⟩ = some invocation ∧
          ∀ request path choice found, dispatcher.select request path = some (choice, found) →
            choice.2.method = ⟨controller.type, method.name⟩ → choice = (handler, invocation) := by
  refine ⟨?types, ?names, ?built⟩
  case types =>
    intro repeated
    cases twice : ControllerDefinition.firstDuplicate [] definition.controllers with
    | none => exact absurd (ControllerDefinition.first_duplicate_none.1 twice).1 repeated
    | some type =>
        obtain ⟨controller, member, rfl⟩ := ControllerDefinition.first_duplicate_some twice
        refine ⟨controller, member, ?_⟩
        rw [DispatcherDefinition.build, twice]
  case names =>
    intro controller member repeated
    cases result : definition.build place with
    | error problem => exact ⟨problem, rfl⟩
    | ok dispatcher =>
        have made := DispatcherDefinition.build_keeps result
        exact absurd (made.names controller member) repeated
  case built =>
    intro dispatcher built
    have made := DispatcherDefinition.build_keeps built
    refine ⟨made.handlers, made.registry, made.distinct, made.length, ?_⟩
    intro controller declared method named
    obtain ⟨handler, known, _, _, compiled⟩ := made.handlers.made declared
    obtain ⟨invocation, within, before, after, own⟩ := compiled.methods.made named
    have member : (handler, invocation) ∈ dispatcher.methods :=
      List.mem_flatMap.2 ⟨handler, known, List.mem_map_of_mem within⟩
    refine ⟨handler, invocation, before, after, member, compiled.type, own,
      compile_parameters_in_turn own.fetchers, ?_, ?_⟩
    · rw [← own.key]
      exact made.find member
    · intro request path choice found selected keyed
      apply made.only (Dispatcher.select_mem selected) member
      rw [keyed, own.key]

/-! Two controllers with a method of one name. -/

namespace Twins

def parameter (name : String) : Parameter :=
  { Parameter.declare name .text with query := some name }

def method (path name : String) : HandlerMethod Unit :=
  { name := "show", route := { RouteDeclaration.empty with paths := [path] }
    parameters := [parameter name], outcomes := [.write], defaultView := none, target := ⟨"Twin"⟩
    body := fun _ => .finish (.ok (.text path)) }

def definition : DispatcherDefinition Unit :=
  { DispatcherDefinition.empty with
    controllers := [⟨⟨"First"⟩, [method "/first" "one"]⟩, ⟨⟨"Second"⟩, [method "/second" "two"]⟩] }

def fetcher (name : String) : Fetcher := .scalar .query name .text ⟨none, true⟩

theorem fetchers_of_parameter {mapping : RouteMapping} {before after : ConversionService}
    {name : String} {fetchers : List Fetcher}
    (inTurn : InTurn (Parameter.CompiledAs mapping) before [parameter name] fetchers after) :
    fetchers = [fetcher name] := by
  cases inTurn with
  | cons made rest =>
      cases rest
      obtain ⟨_, -, same⟩ := map_eq_ok.1 (congrArg Prod.fst made)
      rw [← same]
      rfl

end Twins

/-- Each controller has its own method of the name. -/
theorem twins_apart : ∃ dispatcher first second, Twins.definition.build 0 = .ok dispatcher ∧
    dispatcher.registry.length = 2 ∧
    dispatcher.invocation? ⟨⟨"First"⟩, "show"⟩ = some first ∧
    first.body = (Twins.method "/first" "one").body ∧ first.fetchers = [Twins.fetcher "one"] ∧
    dispatcher.invocation? ⟨⟨"Second"⟩, "show"⟩ = some second ∧
    second.body = (Twins.method "/second" "two").body ∧
    second.fetchers = [Twins.fetcher "two"] := by
  have built : ∃ dispatcher, Twins.definition.build 0 = .ok dispatcher := ⟨_, rfl⟩
  obtain ⟨dispatcher, built⟩ := built
  obtain ⟨-, -, holds⟩ := build_shares_no_method Twins.definition 0
  obtain ⟨-, -, -, counted, each⟩ := holds dispatcher built
  obtain ⟨_, first, _, _, -, -, own, one, found, -⟩ :=
    each ⟨⟨"First"⟩, [Twins.method "/first" "one"]⟩ (.head _) (Twins.method "/first" "one")
      (.head _)
  obtain ⟨_, second, _, _, -, -, other, two, known, -⟩ :=
    each ⟨⟨"Second"⟩, [Twins.method "/second" "two"]⟩ (.tail _ (.head _))
      (Twins.method "/second" "two") (.head _)
  exact ⟨dispatcher, first, second, built, counted, found, own.body,
    Twins.fetchers_of_parameter one, known, other.body, Twins.fetchers_of_parameter two⟩

end RequestDispatch
