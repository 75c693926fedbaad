import RequestDispatch.Interception.Chain
import RequestDispatch.Proofs.Container.History
import RequestDispatch.Proofs.Except
import RequestDispatch.Proofs.Interception.Collected
import RequestDispatch.Proofs.Type.Distance

/-!
Chains that are kept. Requests for chains and calls of the container may come in any order. A chain
is put together from the beans that the container has when its method is first asked for with
success, and it is the answer from then on, whatever the container has become. The step is
`chain_for_new`, the run `lookup_iff_gave`, and the main statement is `chains_are_kept`.
-/

namespace RequestDispatch

variable {State : Type}

def InterceptionError.type : InterceptionError → TypeKey
  | .unresolved _ type _ => type
  | .notAnInterceptor type => type

namespace Container

/-- The interceptor that is the only bean of a type, or why there is none for a method. -/
def interceptorOf (container : Container (Bean State)) (method : MethodKey) (type : TypeKey) :
    Except InterceptionError (Interceptor State) :=
  match container.ofType type with
  | [] => .error (.unresolved method type (.beanNotFound type none))
  | [only] =>
    match only.source.give.1.interceptor with
    | some interceptor => .ok interceptor
    | none => .error (.notAnInterceptor type)
  | several =>
    .error (.unresolved method type (.noUniqueBean type (several.map Registration.name)))

theorem error_type {container : Container (Bean State)} {method : MethodKey} {type : TypeKey}
    {error : InterceptionError} (failed : container.interceptorOf method type = .error error) :
    error.type = type := by
  unfold interceptorOf at failed
  split at failed
  · cases failed
    rfl
  · split at failed
    · cases failed
    · cases failed
      rfl
  · cases failed
    rfl

theorem ofType_putSource {Bean : Type} {type other : TypeKey} (differs : other ≠ type)
    (name : String) (source : BeanSource Bean) (container : Container Bean) :
    (⟨putSource type name source container.registrations⟩ : Container Bean).ofType other =
      container.ofType other := by
  obtain ⟨registrations⟩ := container
  simp only [ofType]
  induction registrations with
  | nil => rfl
  | cons registration rest ih =>
      rw [putSource]
      split
      · next own =>
        have unlike : (registration.type == other) = false := by
          rw [(Registration.isFor_iff.1 own).1]
          exact beq_false_of_ne differs.symm
        rw [List.filter_cons, List.filter_cons, unlike]
        rfl
      · rw [List.filter_cons, List.filter_cons, ih]

theorem ofType_resolve {Bean : Type} {type other : TypeKey} (differs : other ≠ type)
    (qualifier : Option String) (container : Container Bean) :
    (container.resolve type qualifier).2.ofType other = container.ofType other := by
  rw [resolve]
  split
  · rfl
  · exact ofType_putSource differs _ _ container

end Container

namespace ChainFactory

open Container

theorem resolveAll_cons (method : MethodKey) (type : TypeKey) (rest : List TypeKey)
    (container : Container (Bean State)) :
    (resolveAll method (type :: rest) container).1 =
      (container.interceptorOf method type).bind fun interceptor =>
        (resolveAll method rest (container.resolve type none).2).1.map (interceptor :: ·) := by
  rw [resolveAll, interceptorOf, resolve, choose]
  cases container.ofType type with
  | nil => rfl
  | cons only others =>
      cases others with
      | cons second others => rfl
      | nil =>
          dsimp only
          generalize only.source.give = given
          obtain ⟨bean, source⟩ := given
          cases bean.interceptor with
          | none => rfl
          | some interceptor =>
              dsimp only
              generalize resolveAll method rest _ = inside
              obtain ⟨answer, after⟩ := inside
              cases answer <;> rfl

/-- Interceptors of different types are resolved as if each were the only one. -/
theorem resolveAll_eq (method : MethodKey) {types : List TypeKey} (distinct : types.Nodup)
    {container before : Container (Bean State)}
    (same : ∀ type ∈ types, container.ofType type = before.ofType type) :
    (resolveAll method types container).1 = types.mapM (before.interceptorOf method) := by
  induction types generalizing container with
  | nil => rfl
  | cons type rest ih =>
      rw [List.nodup_cons] at distinct
      rw [List.forall_mem_cons] at same
      have others : ∀ other ∈ rest,
          (container.resolve type none).2.ofType other = before.ofType other := by
        intro other member
        have differs : other ≠ type := by
          intro equal
          exact distinct.1 (equal ▸ member)
        rw [ofType_resolve differs]
        exact same.2 other member
      have own : container.interceptorOf method type = before.interceptorOf method type := by
        rw [interceptorOf, same.1, ← interceptorOf]
      rw [resolveAll_cons, ih distinct.2 others, own, List.mapM_cons]
      cases before.interceptorOf method type with
      | error error => rfl
      | ok interceptor => cases rest.mapM (before.interceptorOf method) <;> rfl

/-- The chain that a container gives for a method now. -/
def assembled (factory : ChainFactory) (method : MethodKey) (container : Container (Bean State)) :
    Except InterceptionError (InterceptorChain State) :=
  ((factory.declarations.collect method factory.hierarchy).mapM
    (container.interceptorOf method)).map (InterceptorChain.mk method)

variable (factory : ChainFactory) {method : MethodKey} {container : Container (Bean State)}

theorem assembled_eq_error {error : InterceptionError} :
    factory.assembled method container = .error error ↔
      ∃ before type behind,
        factory.declarations.collect method factory.hierarchy = before ++ type :: behind ∧
          (∀ earlier ∈ before, ∃ interceptor,
            container.interceptorOf method earlier = .ok interceptor) ∧
          container.interceptorOf method type = .error error ∧ error.type = type := by
  have failed : factory.assembled method container = .error error ↔
      (factory.declarations.collect method factory.hierarchy).mapM
        (container.interceptorOf method) = .error error := by
    rw [assembled]
    cases (factory.declarations.collect method factory.hierarchy).mapM
      (container.interceptorOf method) <;> simp [Except.map]
  simp only [failed, mapM_eq_error, List.findSome?_eq_some_iff, failure_eq_some, failure_eq_none]
  constructor
  · intro ⟨before, type, behind, parted, refused, passed⟩
    exact ⟨before, type, behind, parted, passed, refused, error_type refused⟩
  · intro ⟨before, type, behind, parted, passed, refused, _⟩
    exact ⟨before, type, behind, parted, refused, passed⟩

theorem assembled_eq_ok {chain : InterceptorChain State}
    (made : factory.assembled method container = .ok chain) :
    chain.method = method ∧
      List.Forall₂ (fun type interceptor => container.interceptorOf method type = .ok interceptor)
        (factory.declarations.collect method factory.hierarchy) chain.interceptors := by
  obtain ⟨interceptors, resolved, rfl⟩ := map_eq_ok.1 made
  exact ⟨rfl, mapM_in_order resolved⟩

variable {factory : ChainFactory} {method : MethodKey} {cache : ChainCache State}
  {chain : InterceptorChain State}

theorem chain_for_kept (kept : cache.lookup method = some chain)
    (container : Container (Bean State)) :
    factory.chainFor method cache container = (.ok chain, cache, container) := by
  rw [chainFor, kept]

theorem chain_for_new (factory : ChainFactory) {method : MethodKey} {cache : ChainCache State}
    (new : cache.lookup method = none) (container : Container (Bean State)) :
    ∃ after, factory.chainFor method cache container =
      match factory.assembled method container with
      | .ok chain => (.ok chain, cache ++ [(method, chain)], after)
      | .error error => (.error error, cache, after) := by
  have resolved :
      (resolveAll method (factory.declarations.collect method factory.hierarchy) container).1 =
        (factory.declarations.collect method factory.hierarchy).mapM
          (container.interceptorOf method) :=
    resolveAll_eq method (factory.declarations.nodup_collect method factory.hierarchy)
      fun _ _ => rfl
  rw [chainFor, new, assembled, ← resolved]
  dsimp only
  generalize resolveAll method _ container = found
  obtain ⟨answer, after⟩ := found
  cases answer <;> exact ⟨after, rfl⟩

theorem resolveAll_resolves (method : MethodKey) (types : List TypeKey)
    (container : Container (Bean State)) :
    ∃ asked : List TypeKey, (resolveAll method types container).2 =
      asked.foldl (fun container type => (container.resolve type none).2) container := by
  induction types generalizing container with
  | nil => exact ⟨[], rfl⟩
  | cons type rest ih =>
      obtain ⟨asked, inside⟩ := ih (container.resolve type none).2
      rw [resolveAll]
      generalize first : container.resolve type none = resolved at inside
      obtain ⟨answer, after⟩ := resolved
      cases answer with
      | error cause => exact ⟨[type], by rw [List.foldl_cons, first]; rfl⟩
      | ok bean =>
          cases own : bean.interceptor with
          | none => exact ⟨[type], by simp only [List.foldl_cons, first, own, List.foldl_nil]⟩
          | some interceptor =>
              refine ⟨type :: asked, ?_⟩
              rw [List.foldl_cons, first, ← inside]
              simp only [own]
              generalize resolveAll method rest after = others
              obtain ⟨answer, last⟩ := others
              cases answer <;> rfl

theorem chain_for_resolves (factory : ChainFactory) (method : MethodKey) (cache : ChainCache State)
    (container : Container (Bean State)) :
    ∃ asked : List TypeKey, (factory.chainFor method cache container).2.2 =
      asked.foldl (fun container type => (container.resolve type none).2) container := by
  rw [chainFor]
  cases cache.lookup method with
  | some chain => exact ⟨[], rfl⟩
  | none =>
      obtain ⟨asked, resolved⟩ := resolveAll_resolves method
        (factory.declarations.collect method factory.hierarchy) container
      refine ⟨asked, ?_⟩
      rw [← resolved]
      dsimp only
      generalize resolveAll method _ container = found
      obtain ⟨answer, after⟩ := found
      cases answer <;> rfl

end ChainFactory

/-- What the chains of a factory and its container are asked for. -/
inductive ChainCall (State : Type) where
  | chain (method : MethodKey)
  | container (call : ContainerCall (Bean State))

namespace ChainCall

def ofContainer? : ChainCall State → Option (ContainerCall (Bean State))
  | .chain _ => none
  | .container call => some call

end ChainCall

/-- The chains that have been put together, and the container that their beans come from. -/
structure ChainStore (State : Type) where
  cache : ChainCache State
  container : Container (Bean State)

namespace ChainFactory

variable (factory : ChainFactory)

def answer (store : ChainStore State) (method : MethodKey) :
    Except InterceptionError (InterceptorChain State) :=
  (factory.chainFor method store.cache store.container).1

def step (store : ChainStore State) : ChainCall State → ChainStore State
  | .chain method =>
    let (_, cache, container) := factory.chainFor method store.cache store.container
    ⟨cache, container⟩
  | .container call => { store with container := (call.perform store.container).2 }

def storeAfter (calls : List (ChainCall State)) : ChainStore State :=
  calls.foldl factory.step ⟨[], .empty⟩

theorem store_after_concat (calls : List (ChainCall State)) (call : ChainCall State) :
    factory.storeAfter (calls ++ [call]) = factory.step (factory.storeAfter calls) call := by
  rw [storeAfter, List.foldl_append]
  rfl

def Gave (calls : List (ChainCall State)) (method : MethodKey) (chain : InterceptorChain State) :
    Prop :=
  ∃ earlier later, calls = earlier ++ .chain method :: later ∧
    factory.answer (factory.storeAfter earlier) method = .ok chain

theorem gave_concat {calls : List (ChainCall State)} {call : ChainCall State} {method : MethodKey}
    {chain : InterceptorChain State} :
    factory.Gave (calls ++ [call]) method chain ↔ factory.Gave calls method chain ∨
      call = .chain method ∧ factory.answer (factory.storeAfter calls) method = .ok chain := by
  constructor
  · intro ⟨earlier, later, parted, given⟩
    cases later using List.reverseRecOn with
    | nil =>
        have ends := List.append_inj' parted rfl
        rw [← ends.1] at given
        exact .inr ⟨List.singleton_inj.1 ends.2, given⟩
    | append_singleton later last =>
        rw [← List.cons_append, ← List.append_assoc] at parted
        have ends := List.append_inj' parted rfl
        exact .inl ⟨earlier, later, ends.1, given⟩
  · intro given
    cases given with
    | inl before =>
        obtain ⟨earlier, later, rfl, given⟩ := before
        exact ⟨earlier, later ++ [call], by simp, given⟩
    | inr now => exact ⟨calls, [], by rw [now.1], now.2⟩

/-- What a request for a chain does to the chains that are kept. -/
theorem cache_step (store : ChainStore State) (method : MethodKey) :
    (factory.step store (.chain method)).cache =
      match store.cache.lookup method, factory.assembled method store.container with
      | none, .ok chain => store.cache ++ [(method, chain)]
      | _, _ => store.cache := by
  rw [step]
  cases known : store.cache.lookup method with
  | some chain => rw [chain_for_kept known]
  | none =>
      obtain ⟨after, new⟩ := factory.chain_for_new known store.container
      rw [new]
      cases factory.assembled method store.container <;> rfl

theorem answer_eq (store : ChainStore State) (method : MethodKey) :
    factory.answer store method =
      match store.cache.lookup method with
      | some chain => .ok chain
      | none => factory.assembled method store.container := by
  rw [answer]
  cases known : store.cache.lookup method with
  | some chain => rw [chain_for_kept known]
  | none =>
      obtain ⟨after, new⟩ := factory.chain_for_new known store.container
      rw [new]
      cases factory.assembled method store.container <;> rfl

theorem lookup_iff_gave (calls : List (ChainCall State)) (method : MethodKey)
    (chain : InterceptorChain State) :
    (factory.storeAfter calls).cache.lookup method = some chain ↔
      factory.Gave calls method chain := by
  induction calls using List.reverseRecOn with
  | nil =>
      constructor
      · intro kept
        cases kept
      · intro ⟨earlier, later, parted, _⟩
        simp at parted
  | append_singleton calls call ih =>
      rw [store_after_concat, gave_concat, ← ih]
      cases call with
      | container call => simp [step]
      | chain asked =>
          rw [cache_step, answer_eq]
          by_cases same : asked = method
          · subst same
            cases known : (factory.storeAfter calls).cache.lookup asked with
            | some kept => simp [known]
            | none =>
                cases factory.assembled asked (factory.storeAfter calls).container with
                | error error => simp [known]
                | ok made => simp [List.lookup_append, known]
          · have other : ChainCall.chain asked ≠ (ChainCall.chain method : ChainCall State) := by
              simpa using same
            simp only [other, false_and, or_false]
            split
            · have unlike : (method == asked) = false := beq_false_of_ne (Ne.symm same)
              simp [List.lookup_append, List.lookup_cons, unlike]
            · rfl

theorem cache_distinct (calls : List (ChainCall State)) :
    ((factory.storeAfter calls).cache.map Prod.fst).Nodup := by
  induction calls using List.reverseRecOn with
  | nil => exact List.nodup_nil
  | append_singleton calls call ih =>
      rw [store_after_concat]
      cases call with
      | container call => exact ih
      | chain method =>
          rw [cache_step]
          split
          · next new _ =>
            have fresh : method ∉ (factory.storeAfter calls).cache.map Prod.fst := by
              rw [List.lookup_eq_none_iff] at new
              intro held
              obtain ⟨entry, member, same⟩ := List.mem_map.1 held
              simpa [same] using new entry member
            have extended := ih.concat fresh
            rw [List.concat_eq_append] at extended
            rw [List.map_append]
            exact extended
          · exact ih

theorem container_after (calls : List (ChainCall State)) :
    ∃ performed, (factory.storeAfter calls).container = ContainerCall.containerAfter performed ∧
      ContainerCall.requests performed =
        ContainerCall.requests (calls.filterMap ChainCall.ofContainer?) := by
  induction calls using List.reverseRecOn with
  | nil => exact ⟨[], rfl, rfl⟩
  | append_singleton calls call ih =>
      obtain ⟨performed, same, requested⟩ := ih
      rw [store_after_concat, List.filterMap_append]
      cases call with
      | container call =>
          refine ⟨performed ++ [call], ?_, ?_⟩
          · rw [ContainerCall.containerAfter, List.foldl_append, ← ContainerCall.containerAfter,
              ← same]
            rfl
          · rw [ContainerCall.requests_concat, requested]
            exact (ContainerCall.requests_concat _ call).symm
      | chain method =>
          obtain ⟨asked, resolved⟩ := factory.chain_for_resolves method
            (factory.storeAfter calls).cache (factory.storeAfter calls).container
          refine ⟨performed ++ asked.map (.resolve · none), ?_, ?_⟩
          · rw [ContainerCall.containerAfter, List.foldl_append, ← ContainerCall.containerAfter,
              ← same, List.foldl_map]
            exact resolved
          · have resolutions : ContainerCall.requests (asked.map fun type =>
                (.resolve type none : ContainerCall (Bean State))) = [] := by
              simp [ContainerCall.requests, ContainerCall.registration?]
            have nothing : [(.chain method : ChainCall State)].filterMap ChainCall.ofContainer? =
                [] := rfl
            rw [ContainerCall.requests_append, resolutions, nothing, List.append_nil,
              List.append_nil, requested]

end ChainFactory

/-- The answer to a request for the chain of a method, after any calls. It fails exactly if no chain
is kept for the method and one of its interceptors is missing, is there more than once or is none,
with an error about the first of these, and then the kept chains stay as they are. A chain that was
given once is given again, whatever the container has become, and nothing is asked of the container.
A new chain is made of the beans of the interceptors, in their order, and is kept for its method. So
the chains that are kept are those that were given, one for each method; and the container is, but
for resolutions, the one that the calls of the container alone lead to. -/
theorem ChainFactory.chains_are_kept (factory : ChainFactory) (calls : List (ChainCall State))
    (method : MethodKey) :
    let store := factory.storeAfter calls
    let answer := factory.answer store method
    let after := factory.step store (.chain method)
    let collected := factory.declarations.collect method factory.hierarchy
    let bean (type : TypeKey) := store.container.interceptorOf method type
    (∀ error, answer = .error error ↔ store.cache.lookup method = none ∧
      ∃ before type behind, collected = before ++ type :: behind ∧
        (∀ earlier ∈ before, ∃ interceptor, bean earlier = .ok interceptor) ∧
        bean type = .error error ∧ error.type = type) ∧
    (∀ error, answer = .error error → after.cache = store.cache) ∧
    (∀ chain, factory.Gave calls method chain → answer = .ok chain ∧ after = store) ∧
    (∀ chain, answer = .ok chain → store.cache.lookup method = none →
      chain.method = method ∧ after.cache = store.cache ++ [(method, chain)] ∧
        List.Forall₂ (fun type interceptor => bean type = .ok interceptor) collected
          chain.interceptors) ∧
    (store.cache.map Prod.fst).Nodup ∧
    (∀ key chain, store.cache.lookup key = some chain ↔ factory.Gave calls key chain) ∧
    ∃ performed, store.container = ContainerCall.containerAfter performed ∧
      ContainerCall.requests performed =
        ContainerCall.requests (calls.filterMap ChainCall.ofContainer?) := by
  intro store answer after collected bean
  have given : answer = _ := factory.answer_eq store method
  have kept : after.cache = _ := factory.cache_step store method
  refine ⟨?_, ?_, ?_, ?_, factory.cache_distinct calls, factory.lookup_iff_gave calls,
    factory.container_after calls⟩
  · intro error
    rw [given]
    cases known : store.cache.lookup method with
    | some chain => simp
    | none =>
        dsimp only
        rw [factory.assembled_eq_error]
        constructor
        · intro refused
          exact ⟨rfl, refused⟩
        · intro refused
          exact refused.2
  · intro error failed
    rw [given] at failed
    rw [kept]
    cases known : store.cache.lookup method with
    | some chain => rfl
    | none =>
        rw [known] at failed
        dsimp only at failed
        rw [failed]
  · intro chain gave
    have known : store.cache.lookup method = some chain :=
      (factory.lookup_iff_gave calls method chain).2 gave
    constructor
    · rw [given, known]
    · change factory.step store (.chain method) = store
      rw [step, chain_for_kept known]
  · intro chain made new
    rw [given, new] at made
    have whole := factory.assembled_eq_ok made
    refine ⟨whole.1, ?_, whole.2⟩
    dsimp only at made
    rw [kept, new, made]

/-- A chain is not put together while its interceptor is missing. Once it has been, a second bean
for the interceptor does not matter. -/
example :
    let audit : TypeKey := ⟨"Audit"⟩
    let method : MethodKey := ⟨⟨"Users"⟩, "show"⟩
    let factory : ChainFactory :=
      ⟨InterceptorDeclarations.empty.onMethod method audit, ⟨[]⟩⟩
    let bean (name : String) : ChainCall Unit :=
      .container (.instance audit name
        ⟨⟨.given 0, .instance audit name⟩, some ⟨name, .proceed .finish⟩⟩)
    let names (calls : List (ChainCall Unit)) : Except InterceptionError (List String) :=
      (factory.answer (factory.storeAfter calls) method).map fun chain =>
        chain.interceptors.map Interceptor.name
    names [.chain method] = .error (.unresolved method audit (.beanNotFound audit none)) ∧
      names [.chain method, bean "first", .chain method, bean "second"] = .ok ["first"] :=
  ⟨rfl, rfl⟩

end RequestDispatch
