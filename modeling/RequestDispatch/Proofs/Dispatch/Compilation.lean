import RequestDispatch.Dispatch.Dispatcher
import RequestDispatch.Proofs.Except
import Mathlib.Data.List.Forall2

/-!
What compiling keeps. Methods and controllers are compiled in turn, each with the conversion service
that the one before it leaves, and registered in their order (`compile_all_in_turn`). So the
handlers of a dispatcher stand in the order of the controllers it is built from, their invocations
in the order of the methods, and each invocation is the method in its place compiled
(`build_in_order`).
-/

namespace RequestDispatch

variable {State : Type}

/-- Results are made of items in turn, each with the state that the one before it leaves. -/
inductive InTurn {Item Result Between : Type} (makes : Between → Item → Result → Between → Prop) :
    Between → List Item → List Result → Between → Prop
  | nil (state : Between) : InTurn makes state [] [] state
  | cons {first next last : Between} {item : Item} {items : List Item} {result : Result}
      {results : List Result} : makes first item result next →
      InTurn makes next items results last →
        InTurn makes first (item :: items) (result :: results) last

theorem InTurn.made {Item Result Between : Type} {makes : Between → Item → Result → Between → Prop}
    {first last : Between} {items : List Item} {results : List Result}
    (inTurn : InTurn makes first items results last) {item : Item} (member : item ∈ items) :
    ∃ result ∈ results, ∃ before after, makes before item result after := by
  induction inTurn with
  | nil => cases member
  | cons made _ ih =>
      cases member with
      | head => exact ⟨_, List.mem_cons_self, _, _, made⟩
      | tail _ later =>
          obtain ⟨result, known, before, after, found⟩ := ih later
          exact ⟨result, List.mem_cons_of_mem _ known, before, after, found⟩

theorem InTurn.in_order {Item Result Between : Type}
    {makes : Between → Item → Result → Between → Prop} {related : Item → Result → Prop}
    {first last : Between} {items : List Item} {results : List Result}
    (inTurn : InTurn makes first items results last)
    (relates : ∀ {before item result after}, makes before item result after → related item result) :
    List.Forall₂ related items results := by
  induction inTurn with
  | nil => exact .nil
  | cons made _ ih => exact .cons (relates made) ih

/-- The invocation is what a method compiles to with some conversion service. -/
def HandlerMethod.Compiles (owner : TypeKey) (method : HandlerMethod State)
    (invocation : Invocation State) : Prop :=
  ∃ service, (method.compile owner service).1 = .ok invocation

def Parameter.Compiles (mapping : RouteMapping) (parameter : Parameter) (fetcher : Fetcher) :
    Prop :=
  ∃ service, (parameter.fetcher mapping service).1 = .ok fetcher

/-- What a parameter is compiled to with a conversion service, and the service that this leaves. -/
def Parameter.CompiledAs (mapping : RouteMapping) (service : ConversionService)
    (parameter : Parameter) (fetcher : Fetcher) (next : ConversionService) : Prop :=
  parameter.fetcher mapping service = (.ok fetcher, next)

theorem compile_parameters_in_turn {mapping : RouteMapping} {parameters : List Parameter}
    {service next : ConversionService} {fetchers : List Fetcher}
    (compiled : compileParameters mapping parameters service = (.ok fetchers, next)) :
    InTurn (Parameter.CompiledAs mapping) service parameters fetchers next := by
  induction parameters generalizing service fetchers with
  | nil =>
      cases compiled
      exact .nil _
  | cons parameter parameters ih =>
      rw [compileParameters] at compiled
      split at compiled
      · cases compiled
      · next fetcher after made =>
        split at compiled
        · cases compiled
        · next others last rest =>
          cases compiled
          exact .cons made (ih rest)

theorem compile_parameters_in_order {mapping : RouteMapping} {parameters : List Parameter}
    {service : ConversionService} {fetchers : List Fetcher}
    (compiled : (compileParameters mapping parameters service).1 = .ok fetchers) :
    List.Forall₂ (Parameter.Compiles mapping) parameters fetchers := by
  apply (compile_parameters_in_turn (Prod.ext compiled rfl)).in_order
  intro before parameter fetcher after made
  exact ⟨before, congrArg Prod.fst made⟩

/-- What a method is compiled to with a conversion service, and the service that this leaves: each
part of the invocation comes from the method itself. -/
structure HandlerMethod.CompiledAs (owner : TypeKey) (service : ConversionService)
    (method : HandlerMethod State) (invocation : Invocation State) (next : ConversionService) :
    Prop where
  key : invocation.method = ⟨owner, method.name⟩
  route : method.route.compile = .ok invocation.mapping
  fetchers : compileParameters invocation.mapping method.parameters service =
    (.ok invocation.fetchers, next)
  names : invocation.argumentNames = method.parameters.map Parameter.name
  outcomes : invocation.outcomes = Outcome.sort method.outcomes
  defaultView : invocation.defaultView = method.defaultView
  target : invocation.target = method.target
  body : invocation.body = method.body

theorem HandlerMethod.compile_eq_ok {owner : TypeKey} {service next : ConversionService}
    {method : HandlerMethod State} {invocation : Invocation State} :
    method.compile owner service = (.ok invocation, next) ↔
      method.CompiledAs owner service invocation next := by
  constructor
  · intro compiled
    rw [HandlerMethod.compile] at compiled
    split at compiled
    · cases compiled
    · next mapping routed =>
      split at compiled
      · cases compiled
      · next fetchers after made =>
        cases compiled
        exact ⟨rfl, routed, made, rfl, rfl, rfl, rfl, rfl⟩
  · intro own
    obtain ⟨key, mapping, fetchers, names, outcomes, defaultView, target, body⟩ := invocation
    obtain ⟨rfl, routed, made, rfl, rfl, rfl, rfl, rfl⟩ := own
    simp only [HandlerMethod.compile, routed, made]

/-- What a compiled method has kept of its declaration: its parameters have their fetchers and their
names in the order in which they are declared. -/
structure HandlerMethod.Keeps (owner : TypeKey) (method : HandlerMethod State)
    (invocation : Invocation State) : Prop where
  key : invocation.method = ⟨owner, method.name⟩
  route : method.route.compile = .ok invocation.mapping
  fetchers : List.Forall₂ (Parameter.Compiles invocation.mapping) method.parameters
    invocation.fetchers
  names : invocation.argumentNames = method.parameters.map Parameter.name

theorem HandlerMethod.Compiles.keeps {owner : TypeKey} {method : HandlerMethod State}
    {invocation : Invocation State} (compiles : method.Compiles owner invocation) :
    method.Keeps owner invocation := by
  obtain ⟨service, made⟩ := compiles
  have own := HandlerMethod.compile_eq_ok.1 (Prod.ext made rfl)
  exact ⟨own.key, own.route, compile_parameters_in_order (congrArg Prod.fst own.fetchers),
    own.names⟩

structure ControllerDefinition.Compiles (definition : ControllerDefinition State)
    (handler : ControllerHandler State) : Prop where
  type : handler.type = definition.type
  methods : List.Forall₂ (HandlerMethod.Compiles definition.type) definition.methods
    handler.invocations

structure ControllerDefinition.CompiledAs (service : ConversionService)
    (definition : ControllerDefinition State) (handler : ControllerHandler State)
    (next : ConversionService) : Prop where
  type : handler.type = definition.type
  methods : InTurn (HandlerMethod.CompiledAs definition.type) service definition.methods
    handler.invocations next

def ControllerDefinition.keys (definition : ControllerDefinition State) : List MethodKey :=
  definition.methods.map fun method => ⟨definition.type, method.name⟩

def ControllerHandler.entries (handler : ControllerHandler State) : InvocationRegistry State :=
  handler.invocations.map fun invocation => (invocation.method, invocation)

theorem lookup_append_other {registry entries : InvocationRegistry State} {key : MethodKey}
    (absent : key ∉ entries.map Prod.fst) :
    (registry ++ entries).lookup key = registry.lookup key := by
  have unknown : entries.lookup key = none := by
    rw [List.lookup_eq_none_iff]
    intro entry member
    rw [bne_iff_ne]
    rintro rfl
    exact absent (List.mem_map_of_mem member)
  rw [List.lookup_append, unknown, Option.or_none]

theorem Compilation.invocation_fresh {state after : Compilation State} {owner : TypeKey}
    {method : HandlerMethod State} {invocation : Invocation State}
    (fresh : state.registry.lookup ⟨owner, method.name⟩ = none)
    (compiled : state.invocation owner method = (.ok invocation, after)) :
    method.CompiledAs owner state.service invocation after.service ∧
      after.registry = state.registry ++ [(⟨owner, method.name⟩, invocation)] := by
  simp only [Compilation.invocation, fresh] at compiled
  split at compiled
  · cases compiled
  · next found =>
    cases compiled
    exact ⟨HandlerMethod.compile_eq_ok.1 found, rfl⟩

namespace ControllerDefinition

theorem compile_methods_cons {owner : TypeKey} {seen : List String} {method : HandlerMethod State}
    {methods : List (HandlerMethod State)} {state after : Compilation State}
    {invocations : List (Invocation State)}
    (compiled : compileMethods owner seen (method :: methods) state = (.ok invocations, after)) :
    method.name ∉ seen ∧ ∃ invocation next others,
      state.invocation owner method = (.ok invocation, next) ∧
        compileMethods owner (method.name :: seen) methods next = (.ok others, after) ∧
          invocations = invocation :: others := by
  rw [compileMethods] at compiled
  split at compiled
  · cases compiled
  · next unseen =>
    split at compiled
    · cases compiled
    · next invocation next made =>
      split at compiled
      · cases compiled
      · next others last rest =>
        cases compiled
        exact ⟨by simpa using unseen, invocation, next, others, made, rest, rfl⟩

theorem compile_all_cons {definition : ControllerDefinition State}
    {definitions : List (ControllerDefinition State)} {state after : Compilation State}
    {handlers : List (ControllerHandler State)}
    (compiled : compileAll (definition :: definitions) state = (.ok handlers, after)) :
    ∃ handler next others, definition.compile state = (.ok handler, next) ∧
      compileAll definitions next = (.ok others, after) ∧ handlers = handler :: others := by
  rw [compileAll] at compiled
  split at compiled
  · cases compiled
  · next handler next made =>
    split at compiled
    · cases compiled
    · next others last rest =>
      cases compiled
      exact ⟨handler, next, others, made, rest, rfl⟩

theorem first_duplicate_cons {seen : List TypeKey} {definition : ControllerDefinition State}
    {definitions : List (ControllerDefinition State)} :
    firstDuplicate seen (definition :: definitions) = none ↔
      definition.type ∉ seen ∧ firstDuplicate (definition.type :: seen) definitions = none := by
  rw [firstDuplicate]
  by_cases known : definition.type ∈ seen <;> simp [known]

theorem keys_of_methods {owner : TypeKey} {service next : ConversionService}
    {methods : List (HandlerMethod State)} {invocations : List (Invocation State)}
    (inTurn : InTurn (HandlerMethod.CompiledAs owner) service methods invocations next) :
    invocations.map Invocation.method = methods.map fun method => ⟨owner, method.name⟩ := by
  induction inTurn with
  | nil => rfl
  | cons made _ ih => rw [List.map_cons, List.map_cons, made.key, ih]

theorem CompiledAs.keys_entries {service next : ConversionService}
    {definition : ControllerDefinition State} {handler : ControllerHandler State}
    (compiled : definition.CompiledAs service handler next) :
    handler.entries.map Prod.fst = definition.keys := by
  rw [ControllerHandler.entries, List.map_map]
  exact keys_of_methods compiled.methods

theorem owner_of_mem_keys {definition : ControllerDefinition State} {key : MethodKey}
    (member : key ∈ definition.keys) : definition.type = key.owner := by
  obtain ⟨method, -, rfl⟩ := List.mem_map.1 member
  rfl

theorem CompiledAs.compiles {service next : ConversionService}
    {definition : ControllerDefinition State} {handler : ControllerHandler State}
    (compiled : definition.CompiledAs service handler next) : definition.Compiles handler := by
  refine ⟨compiled.type, compiled.methods.in_order ?_⟩
  intro before method invocation after own
  exact ⟨before, congrArg Prod.fst (HandlerMethod.compile_eq_ok.2 own)⟩

theorem compile_methods_in_turn {owner : TypeKey} {seen : List String}
    {methods : List (HandlerMethod State)} {state after : Compilation State}
    {invocations : List (Invocation State)}
    (fresh : ∀ name, name ∉ seen → state.registry.lookup ⟨owner, name⟩ = none)
    (compiled : compileMethods owner seen methods state = (.ok invocations, after)) :
    InTurn (HandlerMethod.CompiledAs owner) state.service methods invocations after.service ∧
      after.registry =
        state.registry ++ invocations.map fun invocation => (invocation.method, invocation) := by
  induction methods generalizing seen state invocations with
  | nil =>
      cases compiled
      exact ⟨.nil _, (List.append_nil _).symm⟩
  | cons method methods ih =>
      obtain ⟨unseen, invocation, next, others, made, rest, rfl⟩ := compile_methods_cons compiled
      obtain ⟨own, registered⟩ := Compilation.invocation_fresh (fresh method.name unseen) made
      have freshBehind : ∀ name, name ∉ method.name :: seen →
          next.registry.lookup ⟨owner, name⟩ = none := by
        intro name absent
        rw [List.mem_cons, not_or] at absent
        rw [registered, lookup_append_other (by simp [absent.1]), fresh name absent.2]
      obtain ⟨inTurn, behind⟩ := ih freshBehind rest
      refine ⟨.cons own inTurn, ?_⟩
      rw [behind, registered, List.map_cons, own.key, List.append_assoc, List.singleton_append]

theorem compile_in_turn {definition : ControllerDefinition State} {state after : Compilation State}
    {handler : ControllerHandler State}
    (fresh : ∀ name, state.registry.lookup ⟨definition.type, name⟩ = none)
    (compiled : definition.compile state = (.ok handler, after)) :
    definition.CompiledAs state.service handler after.service ∧
      after.registry = state.registry ++ handler.entries := by
  simp only [ControllerDefinition.compile, Prod.mk.injEq] at compiled
  obtain ⟨invocations, made, rfl⟩ := map_eq_ok.1 compiled.1
  have unseen : ∀ name, name ∉ [] →
      state.registry.lookup ⟨definition.type, name⟩ = none := by
    intro name _
    exact fresh name
  obtain ⟨inTurn, registered⟩ := compile_methods_in_turn unseen (Prod.ext made compiled.2)
  exact ⟨⟨rfl, inTurn⟩, registered⟩

/-- Controllers are made in turn if their types are distinct, and their methods are registered in
their order. -/
theorem compile_all_in_turn {seen : List TypeKey} {definitions : List (ControllerDefinition State)}
    {state after : Compilation State} {handlers : List (ControllerHandler State)}
    (distinct : firstDuplicate seen definitions = none)
    (fresh : ∀ type, type ∉ seen → ∀ name, state.registry.lookup ⟨type, name⟩ = none)
    (compiled : compileAll definitions state = (.ok handlers, after)) :
    InTurn CompiledAs state.service definitions handlers after.service ∧
      after.registry = state.registry ++ handlers.flatMap ControllerHandler.entries := by
  induction definitions generalizing seen state handlers with
  | nil =>
      cases compiled
      exact ⟨.nil _, (List.append_nil _).symm⟩
  | cons definition definitions ih =>
      rw [first_duplicate_cons] at distinct
      obtain ⟨handler, next, others, made, rest, rfl⟩ := compile_all_cons compiled
      obtain ⟨own, registered⟩ := compile_in_turn (fresh definition.type distinct.1) made
      have freshBehind : ∀ type, type ∉ definition.type :: seen → ∀ name,
          next.registry.lookup ⟨type, name⟩ = none := by
        intro type absent name
        rw [List.mem_cons, not_or] at absent
        have other : (⟨type, name⟩ : MethodKey) ∉ handler.entries.map Prod.fst := by
          rw [own.keys_entries]
          intro member
          exact absent.1 (owner_of_mem_keys member).symm
        rw [registered, lookup_append_other other, fresh type absent.2 name]
      obtain ⟨inTurn, behind⟩ := ih distinct.2 freshBehind rest
      refine ⟨.cons own inTurn, ?_⟩
      rw [behind, registered, List.flatMap_cons, List.append_assoc]

theorem compile_methods_of_in_turn {owner : TypeKey} {seen : List String}
    {methods : List (HandlerMethod State)} {service last : ConversionService}
    {registry : InvocationRegistry State} {invocations : List (Invocation State)}
    (inTurn : InTurn (HandlerMethod.CompiledAs owner) service methods invocations last)
    (distinct : (methods.map HandlerMethod.name).Nodup)
    (unseen : ∀ method ∈ methods, method.name ∉ seen)
    (fresh : ∀ method ∈ methods, registry.lookup ⟨owner, method.name⟩ = none) :
    compileMethods owner seen methods ⟨service, registry⟩ = (.ok invocations,
      ⟨last, registry ++ invocations.map fun invocation => (invocation.method, invocation)⟩) := by
  induction inTurn generalizing seen registry with
  | nil => simp [compileMethods]
  | @cons first next last method methods invocation invocations made rest ih =>
      rw [List.map_cons, List.nodup_cons] at distinct
      rw [List.forall_mem_cons] at unseen fresh
      have others : ∀ other ∈ methods, other.name ≠ method.name := by
        intro other member same
        exact distinct.1 (same ▸ List.mem_map_of_mem member)
      have compiled : Compilation.invocation ⟨first, registry⟩ owner method =
          (.ok invocation, ⟨next, registry ++ [(⟨owner, method.name⟩, invocation)]⟩) := by
        simp only [Compilation.invocation, fresh.1, HandlerMethod.compile_eq_ok.2 made]
      have unseenBehind : ∀ other ∈ methods, other.name ∉ method.name :: seen := by
        intro other member
        rw [List.mem_cons, not_or]
        exact ⟨others other member, unseen.2 other member⟩
      have freshBehind : ∀ other ∈ methods,
          (registry ++ [(⟨owner, method.name⟩, invocation)] : InvocationRegistry State).lookup
            ⟨owner, other.name⟩ = none := by
        intro other member
        rw [lookup_append_other (by simpa using others other member), fresh.2 other member]
      rw [compileMethods, if_neg (by simpa using unseen.1), compiled]
      simp only [ih distinct.2 unseenBehind freshBehind, List.map_cons, made.key,
        List.append_assoc, List.singleton_append]

theorem compile_all_of_in_turn {seen : List TypeKey}
    {definitions : List (ControllerDefinition State)} {service last : ConversionService}
    {registry : InvocationRegistry State} {handlers : List (ControllerHandler State)}
    (inTurn : InTurn CompiledAs service definitions handlers last)
    (distinct : firstDuplicate seen definitions = none)
    (named : ∀ definition ∈ definitions, (definition.methods.map HandlerMethod.name).Nodup)
    (fresh : ∀ type, type ∉ seen → ∀ name, registry.lookup ⟨type, name⟩ = none) :
    compileAll definitions ⟨service, registry⟩ =
      (.ok handlers, ⟨last, registry ++ handlers.flatMap ControllerHandler.entries⟩) := by
  induction inTurn generalizing seen registry with
  | nil => simp [compileAll]
  | @cons first next last definition definitions handler handlers made rest ih =>
      rw [first_duplicate_cons] at distinct
      rw [List.forall_mem_cons] at named
      have unseen : ∀ method ∈ definition.methods, method.name ∉ [] :=
        fun _ _ => List.not_mem_nil
      have methods := compile_methods_of_in_turn made.methods named.1 unseen
        fun method _ => fresh definition.type distinct.1 method.name
      have compiled : definition.compile ⟨first, registry⟩ =
          (.ok handler, ⟨next, registry ++ handler.entries⟩) := by
        rw [ControllerDefinition.compile, methods, ControllerHandler.entries]
        simp only [Except.map, ← made.type]
      have freshBehind : ∀ type, type ∉ definition.type :: seen → ∀ name,
          (registry ++ handler.entries).lookup ⟨type, name⟩ = none := by
        intro type absent name
        rw [List.mem_cons, not_or] at absent
        have other : (⟨type, name⟩ : MethodKey) ∉ handler.entries.map Prod.fst := by
          rw [made.keys_entries]
          intro member
          exact absent.1 (owner_of_mem_keys member).symm
        rw [lookup_append_other other, fresh type absent.2 name]
      rw [compileAll, compiled]
      simp only [ih distinct.2 named.2 freshBehind, List.flatMap_cons, List.append_assoc]

theorem compile_all_append {front : List (ControllerDefinition State)}
    {last : ControllerDefinition State} {state after : Compilation State}
    {handlers : List (ControllerHandler State)}
    (compiled : compileAll (front ++ [last]) state = (.ok handlers, after)) :
    ∃ others middle handler, compileAll front state = (.ok others, middle) ∧
      handlers = others ++ [handler] := by
  induction front generalizing state handlers with
  | nil =>
      obtain ⟨handler, _, others, -, rest, rfl⟩ := compile_all_cons compiled
      cases rest
      exact ⟨[], state, handler, rfl, rfl⟩
  | cons definition front ih =>
      obtain ⟨first, next, rest, made, found, rfl⟩ := compile_all_cons compiled
      obtain ⟨others, middle, handler, inner, rfl⟩ := ih found
      refine ⟨first :: others, middle, handler, ?_, rfl⟩
      rw [compileAll, made]
      simp only [inner]

theorem first_duplicate_append {seen : List TypeKey}
    {front back : List (ControllerDefinition State)}
    (distinct : firstDuplicate seen (front ++ back) = none) : firstDuplicate seen front = none := by
  induction front generalizing seen with
  | nil => rfl
  | cons definition front ih =>
      rw [List.cons_append, first_duplicate_cons] at distinct
      rw [first_duplicate_cons]
      exact ⟨distinct.1, ih distinct.2⟩

end ControllerDefinition

namespace DispatcherDefinition

theorem build_eq_ok {definition : DispatcherDefinition State} {place : Nat}
    {dispatcher : Dispatcher State} (built : definition.build place = .ok dispatcher) :
    ControllerDefinition.firstDuplicate [] definition.controllers = none ∧
      ControllerDefinition.compileAll definition.controllers ⟨definition.conversion, []⟩ =
        (.ok dispatcher.handlers, ⟨dispatcher.initial.conversion, dispatcher.registry⟩) := by
  rw [build] at built
  split at built
  · cases built
  · next distinct =>
    split at built
    · cases built
    · next after compiled =>
      cases built
      exact ⟨distinct, compiled⟩

def assemble (definition : DispatcherDefinition State) (place : Nat)
    (handlers : List (ControllerHandler State)) (service : ConversionService) :
    Dispatcher State where
  place := place
  pathPrefix := normalizePrefix definition.pathPrefix
  handlers := handlers
  registry := handlers.flatMap ControllerHandler.entries
  chains := ⟨definition.declarations, definition.hierarchy⟩
  exceptionHandlers := definition.exceptionHandlers
  views := definition.views
  errorDetails := definition.errorDetails
  nestingLimit := definition.nestingLimit
  initial := ⟨service, definition.container, []⟩

/-- A dispatcher is built if the controllers have different types, the methods of each have
different names, and all can be made in turn. -/
theorem build_of_in_turn {definition : DispatcherDefinition State}
    {handlers : List (ControllerHandler State)} {last : ConversionService}
    (inTurn : InTurn ControllerDefinition.CompiledAs definition.conversion definition.controllers
      handlers last)
    (distinct : ControllerDefinition.firstDuplicate [] definition.controllers = none)
    (named : ∀ controller ∈ definition.controllers,
      (controller.methods.map HandlerMethod.name).Nodup) (place : Nat) :
    definition.build place = .ok (definition.assemble place handlers last) := by
  have compiled : ControllerDefinition.compileAll definition.controllers
      ⟨definition.conversion, []⟩ =
        (.ok handlers, ⟨last, handlers.flatMap ControllerHandler.entries⟩) :=
    ControllerDefinition.compile_all_of_in_turn inTurn distinct named fun _ _ _ => rfl
  rw [build, distinct]
  simp only [compiled]
  rfl

end DispatcherDefinition

/-- A dispatcher that is built holds the controllers and their methods as they are declared. -/
theorem build_in_order {definition : DispatcherDefinition State} {place : Nat}
    {dispatcher : Dispatcher State} (built : definition.build place = .ok dispatcher) :
    List.Forall₂ ControllerDefinition.Compiles definition.controllers dispatcher.handlers := by
  obtain ⟨distinct, compiled⟩ := DispatcherDefinition.build_eq_ok built
  obtain ⟨inTurn, -⟩ :=
    ControllerDefinition.compile_all_in_turn distinct (fun _ _ _ => rfl) compiled
  exact inTurn.in_order ControllerDefinition.CompiledAs.compiles

theorem build_append {definition : DispatcherDefinition State} {place : Nat}
    {controller : ControllerDefinition State} {larger : Dispatcher State}
    (built : ({ definition with controllers := definition.controllers ++ [controller] } :
      DispatcherDefinition State).build place = .ok larger) :
    ∃ dispatcher handler, definition.build place = .ok dispatcher ∧
      larger.handlers = dispatcher.handlers ++ [handler] := by
  obtain ⟨distinct, compiled⟩ := DispatcherDefinition.build_eq_ok built
  obtain ⟨others, middle, handler, inner, same⟩ := ControllerDefinition.compile_all_append compiled
  rw [DispatcherDefinition.build, ControllerDefinition.first_duplicate_append distinct, inner]
  exact ⟨_, handler, rfl, same⟩

end RequestDispatch
