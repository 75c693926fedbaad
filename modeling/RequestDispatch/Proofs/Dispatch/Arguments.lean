import RequestDispatch.Proofs.Dispatch.Variables
import RequestDispatch.Proofs.Interception.Recording

/-!
The arguments of a method come first. The service of a method is made to note what happens in it
once the arguments are there: in its chain, with its outcomes and with its faults. Nothing reads the
notes, so the recorded service does what the service does (`serve_recorded_related`). If a fetch
stops the others, nothing is noted, and the level ends with what stopped it and leaves the exchange
as it was; if all fetchers give values, the chain begins with just these values
(`arguments_come_first`).
-/

namespace RequestDispatch

variable {World Event State α : Type}

/-- What happens in the service of a method once its arguments are there. -/
inductive ServiceEvent where
  /-- Something happens in the chain of the method, or the method itself is called. -/
  | call (event : CallEvent)
  /-- The outcomes of the method are applied to a value. -/
  | applied (value : Value)
  /-- A fault is settled: it is passed on, or given to the exception handler for it. -/
  | settled (fault : Fault)

namespace Process

def beside (process : Process World α) : Process (World × List Event) α := fun place =>
  let (result, after) := process place.1
  (result, after, place.2)

def noting (event : Event) (process : Process World α) : Process (World × List Event) α :=
  fun place =>
    let (result, after) := process place.1
    (result, after, place.2 ++ [event])

/-- A process that keeps a record of calls, with these calls added to a record of services. -/
def withCalls (process : Process (World × List CallEvent) α) :
    Process (World × List ServiceEvent) α := fun place =>
  let (result, after, events) := process (place.1, [])
  (result, after, place.2 ++ events.map .call)

def WithoutRecord (place : World × List Event) (world : World) : Prop := place.1 = world

theorem beside_related (process : Process World α) :
    Related (@WithoutRecord World Event) process.beside process := by
  rintro ⟨_, events⟩ world rfl
  exact ⟨rfl, rfl⟩

theorem noting_related (event : Event) (process : Process World α) :
    Related WithoutRecord (process.noting event) process := by
  rintro ⟨_, events⟩ world rfl
  exact ⟨rfl, rfl⟩

theorem noting_adds (event : Event) (process : Process World α) : (process.noting event).Adds :=
  fun place => List.prefix_append place.2 [event]

theorem with_calls_related {noted : Process (World × List CallEvent) α}
    {process : Process World α} (alike : Related SameWorld noted process) :
    Related WithoutRecord noted.withCalls process := by
  rintro ⟨world, events⟩ _ rfl
  exact alike (show SameWorld (world, []) world from rfl)

theorem with_calls_begins {process : Process (World × List CallEvent) α} {world : World}
    {events : List CallEvent} (begins : events <+: (process (world, [])).2.2)
    (before : List ServiceEvent) :
    before ++ events.map .call <+: (process.withCalls (world, before)).2.2 := by
  obtain ⟨more, same⟩ := begins
  refine ⟨more.map .call, ?_⟩
  change _ = before ++ (process (world, [])).2.2.map .call
  rw [← same, List.map_append, List.append_assoc]

end Process

namespace Dispatcher

/-- The service of a method with a record of what happens once the arguments are there. -/
def serveRecorded (dispatcher : Dispatcher State)
    (nested : String → Dispatching State (Except DispatchError Unit)) (controller : TypeKey)
    (invocation : Invocation State) (found : MatchResult) :
    Process (DispatchContext State × List ServiceEvent) (Except DispatchError Unit) :=
  (dispatcher.fetchArguments invocation).beside.andThen fun
    | .error error => .done (.error error)
    | .ok arguments =>
      (dispatcher.chainFor invocation.method).beside.andThen fun
        | .error error => .done (.error error)
        | .ok chain =>
          let terminal (arguments : Arguments) : Dispatching State CallResult :=
            (invocation.call controller arguments).run DispatchContext.exchangePart nested
          (chain.recording.execute DispatchContext.statePart.recorded
            (InterceptorChain.recordingTerminal terminal) invocation.argumentNames
            arguments).withCalls.andThen fun
            | .ok value =>
              (DispatchContext.change (Outcome.applyFirst dispatcher.views found.defaultView value
                invocation.outcomes)).noting (.applied value)
            | .error fault => (dispatcher.settle nested fault).noting (.settled fault)

theorem serve_recorded_related (dispatcher : Dispatcher State)
    (nested : String → Dispatching State (Except DispatchError Unit)) (controller : TypeKey)
    (invocation : Invocation State) (found : MatchResult) :
    Process.Related Process.WithoutRecord
      (dispatcher.serveRecorded nested controller invocation found)
      (dispatcher.serve nested controller invocation found) := by
  refine (Process.beside_related _).andThen ?_
  rintro (error | arguments)
  · exact Process.done_related _
  refine (Process.beside_related _).andThen ?_
  rintro (error | chain)
  · exact Process.done_related _
  refine (Process.with_calls_related ?_).andThen ?_
  · exact InterceptorChain.intercept_recording_related _ _ _ _ 0 _ _
  · rintro (fault | value)
    · exact Process.noting_related _ _
    · exact Process.noting_related _ _

end Dispatcher

namespace Level

variable {level : Level State}

/-- The service of a level's method with a record, from where its arguments are fetched on. -/
def recorded (level : Level State) :
    Option (Except DispatchError Unit) × DispatchContext State × List ServiceEvent :=
  level.dispatcher.serveRecorded level.nested level.handler.type level.invocation level.found
    (level.opened, [])

/-- A level ends as its recorded service does, and leaves its scope. -/
theorem run_recorded (level : Level State) :
    Dispatcher.runWithin (level.limit + 1) level.dispatcher level.path level.start =
      (level.recorded.1, { level.recorded.2.1 with
        exchange := level.recorded.2.1.exchange.leaveScope
          level.opened.exchange.bindings.depth }) := by
  obtain ⟨same, after⟩ := Dispatcher.serve_recorded_related level.dispatcher level.nested
    level.handler.type level.invocation level.found
    (show Process.WithoutRecord (level.opened, []) level.opened from rfl)
  have served : level.dispatcher.serve level.nested level.handler.type level.invocation
      level.found level.opened = (level.recorded.1, level.recorded.2.1) :=
    Prod.ext same.symm after.symm
  rw [level.run]
  change (match level.dispatcher.serve level.nested level.handler.type level.invocation
    level.found level.opened with
    | (result, after) => (result, { after with
      exchange := after.exchange.leaveScope level.opened.exchange.bindings.depth })) = _
  rw [served]

theorem leave_opened (level : Level State) :
    level.opened.exchange.leaveScope level.opened.exchange.bindings.depth =
      level.start.exchange := by
  unfold opened Exchange.leaveScope Exchange.pushBindings
  dsimp only
  rw [BindingStack.leave_push]

def Binds (level : Level State) (values : List Value) (last : Memory State) : Prop :=
  Fetches level.opened.exchange level.invocation.fetchers (level.opened.memory level.dispatcher)
    values last

def StopsAt (level : Level State) (index : Nat) (fetcher : Fetcher)
    (failure : Option DispatchError) (last : Memory State) : Prop :=
  Stops level.opened.exchange level.invocation.fetchers (level.opened.memory level.dispatcher)
    index fetcher failure last

section Stopped

variable {index : Nat} {fetcher : Fetcher} {failure : Option DispatchError} {last : Memory State}
  (stops : level.StopsAt index fetcher failure last)

include stops

theorem recorded_of_stops :
    level.recorded = (failure.map .error, level.opened.setMemory level.dispatcher last, []) := by
  have fetched : level.dispatcher.fetchArguments level.invocation level.opened =
      (failure.map .error, level.opened.setMemory level.dispatcher last) := by
    unfold Dispatcher.fetchArguments
    rw [Stops.fetch_all stops]
    cases failure <;> rfl
  unfold recorded Dispatcher.serveRecorded Process.andThen Process.beside
  rw [fetched]
  cases failure <;> rfl

theorem run_of_stops :
    Dispatcher.runWithin (level.limit + 1) level.dispatcher level.path level.start =
      (failure.map .error, level.start.setMemory level.dispatcher last) := by
  rw [run_recorded, recorded_of_stops stops]
  dsimp only [DispatchContext.setMemory]
  rw [leave_opened]
  rfl

theorem failure_unhandled :
    (failure.map .error : Option (Except DispatchError Unit)) ≠ some (.error .handled) := by
  intro same
  obtain ⟨error, rfl, handled⟩ := Option.map_eq_some_iff.1 same
  cases handled
  exact (Stops.failure stops).ne_handled rfl

end Stopped

def concluding (level : Level State) :
    CallResult → Process (DispatchContext State × List ServiceEvent) (Except DispatchError Unit)
  | .ok value =>
    (DispatchContext.change (Outcome.applyFirst level.dispatcher.views level.found.defaultView value
      level.invocation.outcomes)).noting (.applied value)
  | .error fault => (level.dispatcher.settle level.nested fault).noting (.settled fault)

section Bound

variable {values : List Value} {last : Memory State} (binds : level.Binds values last)

include binds

theorem fetch_of_binds :
    level.dispatcher.fetchArguments level.invocation level.opened =
      (some (.ok ⟨values⟩), level.opened.setMemory level.dispatcher last) := by
  unfold Dispatcher.fetchArguments
  rw [Fetches.fetch_all binds]
  rfl

theorem recorded_of_unlinked {error : DispatchError} {linked : DispatchContext State}
    (links : level.dispatcher.chainFor level.invocation.method
      (level.opened.setMemory level.dispatcher last) = (some (.error error), linked)) :
    level.recorded = (some (.error error), linked, []) := by
  unfold recorded Dispatcher.serveRecorded Process.andThen Process.beside
  rw [fetch_of_binds binds]
  dsimp only
  rw [links]
  rfl

theorem recorded_of_linked {chain : InterceptorChain State} {linked : DispatchContext State}
    (links : level.dispatcher.chainFor level.invocation.method
      (level.opened.setMemory level.dispatcher last) = (some (.ok chain), linked)) :
    level.recorded = ((chain.recording.execute DispatchContext.statePart.recorded
      (InterceptorChain.recordingTerminal level.terminal) level.invocation.argumentNames
      ⟨values⟩).withCalls.andThen level.concluding) (linked, []) := by
  unfold recorded Dispatcher.serveRecorded
  rw [Process.andThen, Process.beside, fetch_of_binds binds]
  dsimp only
  rw [Process.andThen, Process.beside, links]
  dsimp only
  refine congrArg (fun next => Process.andThen _ next (linked, [])) ?_
  funext result
  cases result <;> rfl

/-- If all arguments are there, the chain begins with them. -/
theorem recorded_begins {chain : InterceptorChain State} {linked : DispatchContext State}
    (links : level.dispatcher.chainFor level.invocation.method
      (level.opened.setMemory level.dispatcher last) = (some (.ok chain), linked)) :
    [.call (chain.firstEvent ⟨values⟩)] <+: level.recorded.2.2 := by
  rw [recorded_of_linked binds links]
  apply Process.andThen_begins
  · exact Process.with_calls_begins (InterceptorChain.execute_recording_begins
      DispatchContext.statePart chain level.terminal level.invocation.argumentNames ⟨values⟩
      (linked, [])) []
  · rintro (fault | value)
    · exact Process.noting_adds _ _
    · exact Process.noting_adds _ _

end Bound

/-- The level is the first one of a dispatch that begins in a context. -/
structure BeginsDispatch (level : Level State) (context : DispatchContext State) : Prop where
  start : level.start =
    { context with attached := context.attached.or (some level.dispatcher) }
  path : level.dispatcher.relativePath? context.exchange.request.path = some level.path
  limit : level.limit = level.dispatcher.nestingLimit

theorem BeginsDispatch.dispatch {context : DispatchContext State}
    (begins : level.BeginsDispatch context) {result : Option (Except DispatchError Unit)}
    {after : DispatchContext State}
    (run : Dispatcher.runWithin (level.limit + 1) level.dispatcher level.path level.start =
      (result, after)) (unhandled : result ≠ some (.error .handled)) :
    level.dispatcher.dispatch context = (result, after) := by
  obtain ⟨start, path, limit⟩ := begins
  rw [limit, start] at run
  unfold Dispatcher.dispatch Dispatcher.includePath
  dsimp only
  rw [path]
  dsimp only
  rw [run]
  match result with
  | none => rfl
  | some (.ok _) => rfl
  | some (.error error) =>
      cases error with
      | handled => exact absurd rfl unhandled
      | _ => rfl

theorem BeginsDispatch.service {context : DispatchContext State}
    (begins : level.BeginsDispatch context)
    (ends : level.recorded.1 = some (.ok ()) ∨ level.recorded.1 = some (.error .handled))
    (timestamp : String) :
    level.dispatcher.service timestamp context = (some (), { level.recorded.2.1 with
      exchange := level.recorded.2.1.exchange.leaveScope
        level.opened.exchange.bindings.depth }) := by
  obtain ⟨start, path, limit⟩ := begins
  have run := level.run_recorded
  rw [limit, start] at run
  unfold Dispatcher.service Process.andThen Dispatcher.dispatch Dispatcher.includePath
  dsimp only
  rw [path]
  dsimp only
  rw [run]
  rcases ends with ended | ended
  · rw [ended]
    rfl
  · rw [ended]
    rfl

end Level

/-- A dispatcher that is built and any level of a request to it, of whatever depth, with a record of
what happens once the arguments are there. The parameters of the method are taken in their order,
each by its own fetcher. If the fetcher of one of them is the first that gives no value, then
nothing happens after it: no interceptor, no code of the method, no outcome and no exception
handler. The level, or the dispatch that begins with it, ends with the failure of this fetcher, or
is abandoned with it, and leaves the exchange as it was. If all of them give values, the chain
begins with one value for each parameter, in their order, unless it cannot be put together; then
the level ends with the failure of that, and nothing has happened either. -/
theorem arguments_come_first {definition : DispatcherDefinition State} {place : Nat}
    (level : Level State) (built : definition.build place = .ok level.dispatcher) :
    ((∃ values last, level.Binds values last) ∨
      ∃ index fetcher failure last, level.StopsAt index fetcher failure last) ∧
    (∃ controller ∈ definition.controllers, ∃ method ∈ controller.methods,
      level.handler.type = controller.type ∧ method.Keeps controller.type level.invocation ∧
      ∀ values last, level.Binds values last →
        values.length = method.parameters.length ∧
        ∀ (index : Nat) (parameter : Parameter), method.parameters[index]? = some parameter →
          ∃ fetcher value before after, level.invocation.fetchers[index]? = some fetcher ∧
            values[index]? = some value ∧
            fetcher.take level.opened.exchange before = (some (.ok value), after)) ∧
    (∀ index fetcher failure last, level.StopsAt index fetcher failure last →
      level.recorded.2.2 = [] ∧
      (let answer :=
        Dispatcher.runWithin (level.limit + 1) level.dispatcher level.path level.start
       answer.1 = failure.map .error ∧ answer.2.exchange = level.start.exchange) ∧
      ∀ context, level.BeginsDispatch context →
        (level.dispatcher.dispatch context).1 = failure.map .error ∧
          (level.dispatcher.dispatch context).2.exchange = context.exchange) ∧
    (∀ values last, level.Binds values last →
      (∀ chain linked, level.dispatcher.chainFor level.invocation.method
          (level.opened.setMemory level.dispatcher last) = (some (.ok chain), linked) →
        ∃ more, level.recorded.2.2 = .call (chain.firstEvent ⟨values⟩) :: more) ∧
      ∀ error linked, level.dispatcher.chainFor level.invocation.method
          (level.opened.setMemory level.dispatcher last) = (some (.error error), linked) →
        level.recorded = (some (.error error), linked, [])) ∧
    Dispatcher.runWithin (level.limit + 1) level.dispatcher level.path level.start =
      (level.recorded.1, { level.recorded.2.1 with
        exchange := level.recorded.2.1.exchange.leaveScope
          level.opened.exchange.bindings.depth }) := by
  obtain ⟨controller, declared, method, named, owner, keeps⟩ :=
    Dispatcher.select_declared built level.selected
  refine ⟨?_, ⟨controller, declared, method, named, owner, keeps, ?_⟩, ?_, ?_, level.run_recorded⟩
  · exact fetches_or_stops level.opened.exchange level.invocation.fetchers
      (level.opened.memory level.dispatcher)
  · intro values last binds
    refine ⟨(Fetches.length binds).trans keeps.fetchers.length_eq.symm, ?_⟩
    intro index parameter found
    obtain ⟨fetcher, known, -⟩ := result_at keeps.fetchers found
    obtain ⟨value, before, after, given, taken⟩ := Fetches.value_at binds known
    exact ⟨fetcher, value, before, after, known, given, taken⟩
  · intro index fetcher failure last stops
    have ended := Level.run_of_stops stops
    refine ⟨by rw [Level.recorded_of_stops stops], ⟨congrArg Prod.fst ended, ?_⟩, ?_⟩
    · exact congrArg (fun answer => answer.2.exchange) ended
    · intro context begins
      rw [begins.dispatch ended (Level.failure_unhandled stops), begins.start]
      exact ⟨rfl, rfl⟩
  · intro values last binds
    constructor
    · intro chain linked links
      obtain ⟨more, events⟩ := Level.recorded_begins binds links
      exact ⟨more, events.symm⟩
    · intro error linked links
      exact Level.recorded_of_unlinked binds links

namespace PostPages

theorem page_stops : ∃ fetcher last,
    (level []).StopsAt 1 fetcher (some (.missingParameter "page" .query)) last :=
  ⟨_, _, rfl, _, _, .cons rfl (.nil _), rfl⟩

theorem page_binds : ∃ last, (level [("page", "2")]).Binds [.text "a b", .text "2"] last ∧
    (dispatcher.chainFor invocation.method
      ((level [("page", "2")]).opened.setMemory dispatcher last)).1 =
        some (.ok ⟨invocation.method, []⟩) := by
  have bound : (level [("page", "2")]).opened.exchange.pathVariable? "post" = some "a b" := by
    decide +kernel
  have title : ((Fetcher.pathVariable "post" .text).take (level [("page", "2")]).opened.exchange
      ((level [("page", "2")]).opened.memory dispatcher)).1 = some (.ok (.text "a b")) :=
    (Fetcher.take_bound_variable .text bound _).trans rfl
  exact ⟨_, .cons (Prod.ext title rfl) (.cons rfl (.nil _)), rfl⟩

theorem begins (query : List (String × String)) :
    (level query).BeginsDispatch (context query) where
  start := rfl
  path := by
    change pathBehind? (normalizePrefix "") path = some path
    decide +kernel
  limit := rfl

end PostPages

/-- Without a page in the query nothing is done with the post. With one the method is called with
its title and the page. -/
theorem page_before_post :
    PostPages.definition.build 0 = .ok (PostPages.level []).dispatcher ∧
      (PostPages.level []).recorded.2.2 = [] ∧
      ((PostPages.level []).dispatcher.dispatch (PostPages.context [])).1 =
        some (.error (.missingParameter "page" .query)) ∧
      ((PostPages.level []).dispatcher.dispatch (PostPages.context [])).2.exchange =
        (PostPages.context []).exchange ∧
      ∃ more, (PostPages.level [("page", "2")]).recorded.2.2 =
        .call (.called ⟨[.text "a b", .text "2"]⟩) :: more := by
  obtain ⟨-, -, stopped, -⟩ := arguments_come_first (PostPages.level []) PostPages.built
  obtain ⟨-, -, -, bound, -⟩ :=
    arguments_come_first (PostPages.level [("page", "2")]) PostPages.built
  obtain ⟨fetcher, last, stops⟩ := PostPages.page_stops
  obtain ⟨nothing, -, ends⟩ := stopped _ _ _ _ stops
  obtain ⟨fails, kept⟩ := ends _ (PostPages.begins [])
  obtain ⟨last, binds, links⟩ := PostPages.page_binds
  obtain ⟨more, events⟩ := (bound _ _ binds).1 _ _ (Prod.ext links rfl)
  exact ⟨PostPages.built, nothing, fails, kept, more, events⟩

end RequestDispatch
