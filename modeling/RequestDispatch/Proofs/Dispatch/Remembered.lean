import RequestDispatch.Dispatch.Host
import RequestDispatch.Proofs.Binding.Typed
import RequestDispatch.Proofs.Dispatch.Scope
import RequestDispatch.Proofs.Interception.Cached

/-!
What a dispatcher remembers. If every bean of a dispatcher is an instance, nothing that it serves
changes its later answers: its converters and its beans stay those that it began with, and the
chains it keeps are those that these beans give (`Memory.Settled`). Fetching arguments and linking a
chain are the only steps that touch the memory, and they keep this (`fetch_all_settled`,
`chain_for_settled`); so does the service of a request (`service_settling`), and so every host of
the dispatcher remembers nothing else, whatever it has served (`Served.settled`).
-/

namespace RequestDispatch

variable {Bean State α β : Type}

namespace Container

/-- No bean is made anew for each resolution. -/
def Lasting (container : Container Bean) : Prop :=
  ∀ registration ∈ container.registrations, ∃ bean, registration.source = .instance bean

variable {container : Container Bean} {type : TypeKey} {registration : Registration Bean}

theorem putSource_own {name : String} (found : container.find? type name = some registration) :
    putSource type name registration.source container.registrations =
      container.registrations := by
  obtain ⟨registrations⟩ := container
  simp only [find?] at found ⊢
  induction registrations with
  | nil => cases found
  | cons first rest ih =>
      rw [List.find?_cons] at found
      rw [putSource]
      cases own : first.isFor type name with
      | true =>
          simp only [own, Option.some.injEq] at found
          rw [if_pos rfl, found]
      | false =>
          simp only [own] at found
          rw [if_neg Bool.false_ne_true, ih found]

theorem find_chosen {qualifier : Option String}
    (chosen : container.choose type qualifier = .ok registration) :
    container.find? type registration.name = some registration := by
  unfold choose at chosen
  split at chosen
  · split at chosen
    · next found =>
      cases chosen
      rw [(of_find found).2]
      exact found
    · cases chosen
  · split at chosen
    · cases chosen
    · next alone =>
      cases chosen
      exact find_only alone
    · cases chosen

theorem Lasting.resolve (lasting : container.Lasting) (type : TypeKey)
    (qualifier : Option String) : (container.resolve type qualifier).2 = container := by
  rw [Container.resolve]
  split
  · rfl
  · next registration chosen =>
    have found := find_chosen chosen
    obtain ⟨bean, source⟩ := lasting registration (List.mem_of_find?_eq_some found)
    have same := putSource_own found
    rw [source] at same ⊢
    dsimp only [BeanSource.give]
    rw [same]

end Container

theorem Fetcher.fetch_container {container : Container Bean} (lasting : container.Lasting)
    (object : Bean → SharedObject) (exchange : Exchange State) (service : ConversionService)
    (fetcher : Fetcher) : (fetcher.fetch object exchange service container).2.2 = container := by
  cases fetcher with
  | container type qualifier => exact lasting.resolve type qualifier
  | session name target => rfl
  | requestAttribute name target => rfl
  | interceptSlot => rfl
  | _ =>
      simp only [fetch]
      split <;> rfl

/-- A memory that answers as the one that the dispatcher began with. -/
structure Memory.Settled (dispatcher : Dispatcher State) (memory : Memory State) : Prop where
  registered : memory.conversion.registered = dispatcher.initial.conversion.registered
  container : memory.container = dispatcher.initial.container
  chains : ∀ method chain, memory.chains.lookup method = some chain →
    dispatcher.chains.assembled method dispatcher.initial.container = .ok chain

/-- The dispatcher remembers nothing but what it finds anew, and nested paths are its own. -/
structure DispatchContext.Settled (dispatcher : Dispatcher State)
    (context : DispatchContext State) : Prop where
  attached : ∀ other, context.attached = some other → other = dispatcher
  memory : (context.memory dispatcher).Settled dispatcher

theorem DispatchContext.memory_of_set (context : DispatchContext State)
    (dispatcher : Dispatcher State) (memory : Memory State) :
    (context.setMemory dispatcher memory).memory dispatcher = memory := by
  simp [DispatchContext.memory, setMemory]

theorem DispatchContext.Settled.remember {dispatcher : Dispatcher State}
    {context : DispatchContext State} (settled : context.Settled dispatcher)
    {memory : Memory State} (same : memory.Settled dispatcher) :
    (context.setMemory dispatcher memory).Settled dispatcher where
  attached := settled.attached
  memory := by rwa [memory_of_set]

/-- The process leaves the dispatcher with a memory that answers as it began. -/
def Settling (dispatcher : Dispatcher State) (process : Dispatching State α) : Prop :=
  process.Leads (DispatchContext.Settled dispatcher) (DispatchContext.Settled dispatcher)

theorem Settling.andThen {dispatcher : Dispatcher State} {first : Dispatching State α}
    {next : α → Dispatching State β} (begins : Settling dispatcher first)
    (continues : ∀ result, Settling dispatcher (next result)) :
    Settling dispatcher (first.andThen next) :=
  Process.Leads.andThen begins continues fun _ settled => settled

theorem done_settling (dispatcher : Dispatcher State) (result : α) :
    Settling dispatcher (Process.done result) := Process.done_leads result

theorem change_settling (dispatcher : Dispatcher State) (step : Exchange State → α × Exchange State) :
    Settling dispatcher (DispatchContext.change step) :=
  fun _ settled => ⟨settled.attached, settled.memory⟩

namespace Dispatcher

section

variable {dispatcher : Dispatcher State} (lasting : dispatcher.initial.container.Lasting)

include lasting

theorem fetch_all_settled (exchange : Exchange State) (fetchers : List Fetcher)
    {memory : Memory State} (settled : memory.Settled dispatcher) :
    (fetchAll exchange fetchers memory).2.Settled dispatcher := by
  induction fetchers generalizing memory with
  | nil => exact settled
  | cons fetcher rest ih =>
      have registered := Fetcher.fetch_registered Bean.object exchange memory.conversion
        memory.container fetcher
      have container := fetcher.fetch_container (settled.container ▸ lasting) Bean.object exchange
        memory.conversion
      rw [fetchAll]
      generalize fetcher.fetch Bean.object exchange memory.conversion memory.container = fetched
        at registered container
      obtain ⟨answer, conversion, beans⟩ := fetched
      have after : ({ memory with conversion := conversion, container := beans } :
          Memory State).Settled dispatcher :=
        ⟨registered.trans settled.registered, container.trans settled.container, settled.chains⟩
      match answer with
      | none => exact after
      | some (.error error) => exact after
      | some (.ok value) => exact ih after

theorem chain_for_settled (method : MethodKey) {memory : Memory State}
    (settled : memory.Settled dispatcher) :
    let linked := dispatcher.chains.chainFor method memory.chains memory.container
    linked.1 = dispatcher.chains.assembled method dispatcher.initial.container ∧
      ({ memory with chains := linked.2.1, container := linked.2.2 } :
        Memory State).Settled dispatcher := by
  intro linked
  have container : linked.2.2 = memory.container := by
    obtain ⟨asked, resolved⟩ :=
      dispatcher.chains.chain_for_resolves method memory.chains memory.container
    rw [show linked.2.2 = _ from resolved]
    have each := (settled.container ▸ lasting : memory.container.Lasting).resolve
    clear resolved
    induction asked with
    | nil => rfl
    | cons type asked ih => rw [List.foldl_cons, each, ih]
  cases known : memory.chains.lookup method with
  | some chain =>
      have kept : linked = (.ok chain, memory.chains, memory.container) :=
        ChainFactory.chain_for_kept known memory.container
      rw [kept]
      exact ⟨(settled.chains method chain known).symm, settled⟩
  | none =>
      obtain ⟨after, new⟩ := dispatcher.chains.chain_for_new known memory.container
      rw [show dispatcher.chains.chainFor method memory.chains memory.container = linked from rfl,
        settled.container] at new
      cases assembled : dispatcher.chains.assembled method dispatcher.initial.container with
      | error error =>
          rw [assembled] at new
          rw [new] at container ⊢
          exact ⟨rfl, settled.registered, container.trans settled.container, settled.chains⟩
      | ok chain =>
          rw [assembled] at new
          rw [new] at container ⊢
          refine ⟨rfl, settled.registered, container.trans settled.container, ?_⟩
          intro other held found
          dsimp only at found
          rw [List.lookup_append, Option.or_eq_some_iff] at found
          rcases found with before | ⟨-, added⟩
          · exact settled.chains other held before
          · rw [List.lookup_cons] at added
            split at added
            · next same =>
              cases added
              rw [eq_of_beq same, assembled]
            · cases added

theorem fetch_arguments_settling (invocation : Invocation State) :
    Settling dispatcher (dispatcher.fetchArguments invocation) :=
  fun context settled => settled.remember
    (fetch_all_settled lasting context.exchange invocation.fetchers settled.memory)

theorem chain_for_settling (method : MethodKey) :
    Settling dispatcher (dispatcher.chainFor method) :=
  fun _ settled => settled.remember (chain_for_settled lasting method settled.memory).2

/-- A method whose chain the beans give is always linked with this chain. -/
theorem chain_for_assembled {method : MethodKey} {chain : InterceptorChain State}
    (assembled : dispatcher.chains.assembled method dispatcher.initial.container = .ok chain)
    {context : DispatchContext State} (settled : (context.memory dispatcher).Settled dispatcher) :
    ∃ memory, dispatcher.chainFor method context =
      (some (.ok chain), context.setMemory dispatcher memory) := by
  have linked := (chain_for_settled lasting method settled).1
  rw [assembled] at linked
  unfold chainFor
  dsimp only
  generalize dispatcher.chains.chainFor method _ _ = answer at linked ⊢
  obtain ⟨result, cache, container⟩ := answer
  cases linked
  exact ⟨_, rfl⟩

omit lasting

variable {nested : String → Dispatching State (Except DispatchError Unit)}
  (served : ∀ path, Settling dispatcher (nested path))

include served

theorem program_settling (program : Program State α) :
    Settling dispatcher (program.run DispatchContext.exchangePart nested) :=
  Program.run_leads (fun _ _ settled => ⟨settled.attached, settled.memory⟩) served program

theorem settle_settling (fault : Fault) : Settling dispatcher (dispatcher.settle nested fault) := by
  rcases fault.passed_or_own with ⟨error, rfl⟩ | own
  · exact done_settling dispatcher _
  · rw [settle_own own]
    cases dispatcher.exceptionHandlers.lookup fault.kind with
    | none => exact done_settling dispatcher _
    | some handler =>
        apply (program_settling served (handler fault)).andThen
        intro handled
        exact done_settling dispatcher _

include lasting in
theorem serve_settling (controller : TypeKey) (invocation : Invocation State)
    (found : MatchResult) :
    Settling dispatcher (dispatcher.serve nested controller invocation found) := by
  apply (fetch_arguments_settling lasting invocation).andThen
  rintro (error | arguments)
  · exact done_settling dispatcher _
  apply (chain_for_settling lasting invocation.method).andThen
  rintro (error | chain)
  · exact done_settling dispatcher _
  apply Settling.andThen
  · exact InterceptorChain.intercept_leads
      (fun _ _ settled => ⟨settled.attached, settled.memory⟩)
      (fun arguments => program_settling served _) ..
  · rintro (fault | value)
    · exact settle_settling served fault
    · exact change_settling dispatcher _

end

variable {dispatcher : Dispatcher State} (lasting : dispatcher.initial.container.Lasting)

include lasting

theorem run_within_settling (limit : Nat) (path : String) :
    Settling dispatcher (runWithin limit dispatcher path) := by
  induction limit generalizing path with
  | zero => exact fun _ settled => settled
  | succ limit ih =>
      have nested (path : String) : Settling dispatcher (nestedWithin limit path) := by
        intro context settled
        unfold nestedWithin
        cases attached : context.attached with
        | none => exact settled
        | some other =>
            cases settled.attached other attached
            exact ih path settled
      intro context settled
      unfold runWithin
      dsimp only
      cases dispatcher.select context.exchange.request path with
      | none => exact settled
      | some selected =>
          obtain ⟨⟨handler, invocation⟩, found⟩ := selected
          let opened : DispatchContext State :=
            { context with exchange := context.exchange.pushBindings found.bindings }
          have inside : opened.Settled dispatcher := ⟨settled.attached, settled.memory⟩
          have after := serve_settling lasting nested handler.type invocation found inside
          exact ⟨after.attached, after.memory⟩

theorem dispatch_settling : Settling dispatcher dispatcher.dispatch := by
  intro context settled
  have started : ({ context with attached := context.attached.or (some dispatcher) } :
      DispatchContext State).Settled dispatcher := by
    refine ⟨?_, settled.memory⟩
    intro other attached
    rcases Option.or_eq_some_iff.1 attached with before | ⟨-, now⟩
    · exact settled.attached other before
    · exact (Option.some.inj now).symm
  unfold dispatch
  dsimp only
  cases dispatcher.relativePath? context.exchange.request.path with
  | none => exact started
  | some path =>
      have after := run_within_settling lasting (dispatcher.nestingLimit + 1) path started
      dsimp only
      unfold includePath
      generalize runWithin (dispatcher.nestingLimit + 1) dispatcher path
        { context with attached := context.attached.or (some dispatcher) } = served at after ⊢
      obtain ⟨result, last⟩ := served
      match result with
      | none => exact after
      | some (.ok _) => exact after
      | some (.error error) => cases error <;> exact after

theorem service_settling (timestamp : String) :
    Settling dispatcher (dispatcher.service timestamp) := by
  apply (dispatch_settling lasting).andThen
  rintro (error | done)
  · exact change_settling dispatcher _
  · exact done_settling dispatcher _

end Dispatcher

namespace Host

def opening (host : Host State) (exchange : Exchange State) : DispatchContext State :=
  .start { exchange with state := host.state, drained := host.drained } host.memories

theorem run_opening (host : Host State) (process : Dispatching State α)
    (exchange : Exchange State) :
    (host.run process exchange).1 =
      ((process (host.opening exchange)).1, (process (host.opening exchange)).2.exchange) := rfl

end Host

/-- What becomes of a host that has one dispatcher serve requests, in whatever exchanges. Between
them its lasting sessions may be set. -/
inductive Served (dispatcher : Dispatcher State) : Host State → Prop
  | start (state : State) : Served dispatcher (.start state)
  | sessions {host : Host State} (sessions : List Session) :
      Served dispatcher host → Served dispatcher (host.withSessions sessions)
  | request {host : Host State} (exchange : Exchange State) (timestamp : String) :
      Served dispatcher host →
        Served dispatcher (host.run (dispatcher.service timestamp) exchange).2

/-- Whatever a dispatcher has served, with its host it remembers nothing that changes its answers,
if it began so. -/
theorem Served.settled {dispatcher : Dispatcher State} {host : Host State}
    (served : Served dispatcher host) (lasting : dispatcher.initial.container.Lasting)
    (unlinked : dispatcher.initial.chains = []) (exchange : Exchange State) :
    (host.opening exchange).Settled dispatcher := by
  induction served generalizing exchange with
  | start state =>
      refine ⟨by rintro _ ⟨⟩, rfl, rfl, ?_⟩
      intro method chain found
      rw [show ((Host.start state).opening exchange).memory dispatcher = dispatcher.initial from rfl,
        unlinked] at found
      cases found
  | sessions _ _ ih => exact ih exchange
  | @request host earlier timestamp _ ih =>
      refine ⟨by rintro _ ⟨⟩, ?_⟩
      exact (Dispatcher.service_settling lasting timestamp (ih earlier)).memory

end RequestDispatch
