import RequestDispatch.Dispatch.Dispatcher
import RequestDispatch.Proofs.Process

/-!
A dispatch that is watched: besides what the dispatchers do, it is written down which faults the
exception handlers are asked about, and how deep. Watching changes nothing (`run_watched_related`),
and each level asks about one fault at most (`run_watched_asks_once`).
-/

namespace RequestDispatch

/-- The exception handlers are asked about a fault. The outermost level is 0. -/
structure Consultation where
  level : Nat
  fault : Fault

structure Watched (State : Type) where
  context : DispatchContext State
  consultations : List Consultation

namespace Watched

variable {State α : Type}

def exchangePart : Part (Watched State) (Exchange State) :=
  ⟨fun world => world.context.exchange, fun exchange world =>
    { world with context := { world.context with exchange := exchange } }⟩

def statePart : Part (Watched State) State :=
  ⟨fun world => world.context.exchange.state, fun state world =>
    exchangePart.set { world.context.exchange with state := state } world⟩

def watch (process : Dispatching State α) : Process (Watched State) α := fun world =>
  let (result, context) := process world.context
  (result, { world with context := context })

def consult (level : Nat) (fault : Fault) : Process (Watched State) Unit := fun world =>
  (some (), { world with consultations := world.consultations ++ [⟨level, fault⟩] })

def inScope (bindings : PathBindings) (process : Process (Watched State) α) :
    Process (Watched State) α := fun world =>
  let opened := world.context.exchange.pushBindings bindings
  let (result, after) := process (exchangePart.set opened world)
  (result, exchangePart.set (after.context.exchange.leaveScope opened.bindings.depth) after)

/-- The world is that of the dispatchers, but for what is written down. -/
def Shows (world : Watched State) (context : DispatchContext State) : Prop :=
  world.context = context

theorem watch_related (process : Dispatching State α) :
    Process.Related Shows (watch process) process := by
  rintro world _ rfl
  exact ⟨rfl, rfl⟩

theorem exchange_related :
    Part.Related Shows exchangePart (DispatchContext.exchangePart : Part _ (Exchange State)) := by
  constructor
  · rintro world _ rfl
    rfl
  · rintro world _ exchange rfl
    rfl

theorem state_related :
    Part.Related Shows statePart (DispatchContext.statePart : Part _ State) := by
  constructor
  · rintro world _ rfl
    rfl
  · rintro world _ state rfl
    rfl

theorem in_scope_related {watched : Process (Watched State) α} {process : Dispatching State α}
    (related : Process.Related Shows watched process) (bindings : PathBindings) :
    Process.Related Shows (inScope bindings watched)
      (DispatchContext.inScope bindings process) := by
  rintro world _ rfl
  let opened : Watched State :=
    exchangePart.set (world.context.exchange.pushBindings bindings) world
  obtain ⟨same, after⟩ := related (rfl : Shows opened opened.context)
  refine ⟨same, ?_⟩
  exact congrArg (fun context : DispatchContext State => DispatchContext.exchangePart.set
    (context.exchange.leaveScope opened.context.exchange.bindings.depth) context) after

/-- Since the start, exception handlers were asked on deeper levels only. -/
def Beyond (level : Nat) (start : List Consultation) (world : Watched State) : Prop :=
  ∃ added, world.consultations = start ++ added ∧ ∀ entry ∈ added, level < entry.level

/-- Since the start, exception handlers were asked on this level or deeper ones, and on this level
about one fault at most. -/
def AskedOnce (level : Nat) (start : List Consultation) (world : Watched State) : Prop :=
  ∃ added, world.consultations = start ++ added ∧ (∀ entry ∈ added, level ≤ entry.level) ∧
    (added.filter fun entry => entry.level = level).length ≤ 1

variable {level : Nat} {start : List Consultation} {world : Watched State}

theorem beyond_start (level : Nat) (world : Watched State) :
    Beyond level world.consultations world := ⟨[], by simp, by simp⟩

theorem Beyond.none_on_level {added : List Consultation}
    (deeper : ∀ entry ∈ added, level < entry.level) :
    (added.filter fun entry => entry.level = level) = [] := by
  simp only [List.filter_eq_nil_iff, decide_eq_true_eq]
  intro entry member same
  exact absurd (deeper entry member) (by omega)

theorem Beyond.askedOnce (beyond : Beyond level start world) : AskedOnce level start world := by
  obtain ⟨added, same, deeper⟩ := beyond
  refine ⟨added, same, fun entry member => Nat.le_of_lt (deeper entry member), ?_⟩
  rw [none_on_level deeper]
  exact Nat.zero_le 1

theorem Beyond.then_asked {before : Watched State} (beyond : Beyond level start before)
    (asked : AskedOnce (level + 1) before.consultations world) : Beyond level start world := by
  obtain ⟨added, same, deeper⟩ := beyond
  obtain ⟨more, after, below, -⟩ := asked
  refine ⟨added ++ more, by rw [after, same, List.append_assoc], ?_⟩
  intro entry member
  rcases List.mem_append.1 member with old | new
  · exact deeper entry old
  · exact below entry new

end Watched

theorem Fault.passed_or_own (fault : Fault) :
    (∃ error, fault = .dispatch error) ∨ ∀ error, fault ≠ .dispatch error := by
  cases fault <;> simp

namespace Dispatcher

open Watched

variable {State : Type}

/-- The handler for the exact kind of a fault deals with it, if there is one. -/
def answerWatched (dispatcher : Dispatcher State)
    (nested : String → Process (Watched State) (Except DispatchError Unit)) (fault : Fault) :
    Process (Watched State) (Except DispatchError Unit) :=
  match dispatcher.exceptionHandlers.lookup fault.kind with
  | none => .done (.error (.handler fault))
  | some handler =>
    ((handler fault).run exchangePart nested).andThen fun handled =>
      .done (.error (if handled then .handled else .handler fault))

def settleWatched (dispatcher : Dispatcher State) (level : Nat)
    (nested : String → Process (Watched State) (Except DispatchError Unit)) :
    Fault → Process (Watched State) (Except DispatchError Unit)
  | .dispatch error => .done (.error error)
  | fault => (consult level fault).andThen fun _ => dispatcher.answerWatched nested fault

def serveWatched (dispatcher : Dispatcher State) (level : Nat)
    (nested : String → Process (Watched State) (Except DispatchError Unit))
    (controller : TypeKey) (invocation : Invocation State) (found : MatchResult) :
    Process (Watched State) (Except DispatchError Unit) :=
  (watch (dispatcher.fetchArguments invocation)).andThen fun
    | .error error => .done (.error error)
    | .ok arguments =>
      (watch (dispatcher.chainFor invocation.method)).andThen fun
        | .error error => .done (.error error)
        | .ok chain =>
          let terminal (arguments : Arguments) : Process (Watched State) CallResult :=
            (invocation.call controller arguments).run exchangePart nested
          (chain.execute statePart terminal invocation.argumentNames arguments).andThen fun
            | .ok value =>
              watch (DispatchContext.change
                (Outcome.applyFirst dispatcher.views found.defaultView value invocation.outcomes))
            | .error fault => dispatcher.settleWatched level nested fault

def runWatched : Nat → Nat → Dispatcher State → String →
    Process (Watched State) (Except DispatchError Unit)
  | 0, _, _, _ => .abandon
  | limit + 1, level, dispatcher, path => fun world =>
    let request := world.context.exchange.request
    match dispatcher.select request path with
    | none => (some (.error (.notFound request.method path)), world)
    | some ((handler, invocation), found) =>
      let nested (path : String) : Process (Watched State) (Except DispatchError Unit) :=
        fun world =>
          match world.context.attached with
          | none => watch (DispatchContext.refuseNested path) world
          | some attached => runWatched limit (level + 1) attached path world
      inScope found.bindings (dispatcher.serveWatched level nested handler.type invocation found)
        world

def nestedWatched (limit level : Nat) (path : String) :
    Process (Watched State) (Except DispatchError Unit) := fun world =>
  match world.context.attached with
  | none => watch (DispatchContext.refuseNested path) world
  | some attached => attached.runWatched limit level path world

section

variable {dispatcher : Dispatcher State} {level : Nat}
  {watched : String → Process (Watched State) (Except DispatchError Unit)}
  {nested : String → Dispatching State (Except DispatchError Unit)}

theorem settle_own {fault : Fault} (own : ∀ error, fault ≠ .dispatch error) :
    dispatcher.settle nested fault =
      match dispatcher.exceptionHandlers.lookup fault.kind with
      | none => .done (.error (.handler fault))
      | some handler =>
        ((handler fault).run DispatchContext.exchangePart nested).andThen fun handled =>
          .done (.error (if handled then .handled else .handler fault)) := by
  cases fault with
  | dispatch error => exact absurd rfl (own error)
  | _ => rfl

theorem settle_watched_own {fault : Fault} (own : ∀ error, fault ≠ .dispatch error) :
    dispatcher.settleWatched level watched fault =
      (consult level fault).andThen fun _ => dispatcher.answerWatched watched fault := by
  cases fault with
  | dispatch error => exact absurd rfl (own error)
  | _ => rfl

theorem settle_watched_related (alike : ∀ path, Process.Related Shows (watched path) (nested path))
    (fault : Fault) :
    Process.Related Shows (dispatcher.settleWatched level watched fault)
      (dispatcher.settle nested fault) := by
  rcases fault.passed_or_own with ⟨error, rfl⟩ | own
  · exact Process.done_related _
  · rw [settle_own own, settle_watched_own own]
    rintro world _ rfl
    have noted : Shows (consult level fault world).2 world.context := rfl
    change _ = _ ∧ Shows (dispatcher.answerWatched watched fault _).2 _
    unfold answerWatched
    cases dispatcher.exceptionHandlers.lookup fault.kind with
    | none => exact Process.done_related _ noted
    | some handler =>
        have answered := Program.run_related exchange_related alike (handler fault)
        exact answered.andThen (fun _ => Process.done_related _) noted

theorem serve_watched_related (alike : ∀ path, Process.Related Shows (watched path) (nested path))
    (controller : TypeKey) (invocation : Invocation State) (found : MatchResult) :
    Process.Related Shows (dispatcher.serveWatched level watched controller invocation found)
      (dispatcher.serve nested controller invocation found) := by
  apply (watch_related _).andThen
  rintro (error | arguments)
  · exact Process.done_related _
  apply (watch_related _).andThen
  rintro (error | chain)
  · exact Process.done_related _
  have terminal (arguments : Arguments) :=
    Program.run_related exchange_related alike (invocation.call controller arguments)
  have chained := InterceptorChain.intercept_related state_related terminal chain.method
    invocation.argumentNames chain.interceptors arguments
  apply chained.andThen
  rintro (fault | value)
  · exact settle_watched_related alike fault
  · exact watch_related _

/-- A dispatcher does the same when it is watched. -/
theorem run_watched_related (limit level : Nat) (dispatcher : Dispatcher State) (path : String) :
    Process.Related Shows (dispatcher.runWatched limit level path)
      (dispatcher.runWithin limit path) := by
  induction limit generalizing level dispatcher path with
  | zero => exact Process.abandon_related
  | succ limit ih =>
      rintro world _ rfl
      unfold runWatched runWithin
      dsimp only
      cases dispatcher.select world.context.exchange.request path with
      | none => exact ⟨rfl, rfl⟩
      | some selected =>
          obtain ⟨⟨handler, invocation⟩, found⟩ := selected
          dsimp only
          refine in_scope_related (serve_watched_related ?_ handler.type invocation found)
            found.bindings rfl
          rintro path inner _ rfl
          dsimp only
          cases inner.context.attached with
          | none => exact watch_related _ rfl
          | some attached => exact ih (level + 1) attached path rfl

end

section

variable {level : Nat} {start : List Consultation}

theorem answer_watched_leads {dispatcher : Dispatcher State}
    {nested : String → Process (Watched State) (Except DispatchError Unit)}
    (served : ∀ path, (nested path).Leads (Beyond level start) (Beyond level start))
    (fault : Fault) :
    (dispatcher.answerWatched nested fault).Leads (Beyond level start) (Beyond level start) := by
  unfold answerWatched
  cases dispatcher.exceptionHandlers.lookup fault.kind with
  | none => exact Process.done_leads _
  | some handler =>
      have kept : ((handler fault).run exchangePart nested).Leads (Beyond level start)
          (Beyond level start) := Program.run_leads (fun _ _ held => held) served _
      exact kept.andThen (fun _ => Process.done_leads _) (fun _ held => held)

theorem settle_watched_leads {dispatcher : Dispatcher State}
    {nested : String → Process (Watched State) (Except DispatchError Unit)}
    (served : ∀ start path, (nested path).Leads (Beyond level start) (Beyond level start))
    (fault : Fault) :
    (dispatcher.settleWatched level nested fault).Leads (Beyond level start)
      (AskedOnce level start) := by
  rcases fault.passed_or_own with ⟨error, rfl⟩ | own
  · exact fun _ beyond => beyond.askedOnce
  rw [settle_watched_own own]
  rintro world ⟨added, same, deeper⟩
  let entry : Consultation := ⟨level, fault⟩
  let noted : Watched State := { world with consultations := world.consultations ++ [entry] }
  obtain ⟨more, after, below⟩ :=
    answer_watched_leads (served noted.consultations) fault (beyond_start level noted)
  refine ⟨added ++ entry :: more, ?_, ?_, ?_⟩
  · refine after.trans ?_
    simp [noted, same]
  · intro other member
    rcases List.mem_append.1 member with old | new
    · exact Nat.le_of_lt (deeper other old)
    · rcases List.mem_cons.1 new with rfl | new
      · exact Nat.le_refl _
      · exact Nat.le_of_lt (below other new)
  · simp [entry, Beyond.none_on_level deeper, Beyond.none_on_level below]

/-- Until they hand a result back, the interceptors of a level ask nobody on it. -/
theorem execute_watched_leads
    {nested : String → Process (Watched State) (Except DispatchError Unit)}
    (served : ∀ path, (nested path).Leads (Beyond level start) (Beyond level start))
    (controller : TypeKey) (invocation : Invocation State) (chain : InterceptorChain State)
    (arguments : Arguments) :
    (chain.execute statePart (fun arguments =>
        (invocation.call controller arguments).run exchangePart nested)
      invocation.argumentNames arguments).Leads (Beyond level start) (Beyond level start) := by
  refine InterceptorChain.intercept_leads (fun _ _ held => held) ?_ chain.method
    invocation.argumentNames chain.interceptors arguments
  intro arguments
  exact Program.run_leads (fun _ _ held => held) served _

theorem serve_watched_leads {dispatcher : Dispatcher State}
    {nested : String → Process (Watched State) (Except DispatchError Unit)}
    (served : ∀ start path, (nested path).Leads (Beyond level start) (Beyond level start))
    (controller : TypeKey) (invocation : Invocation State) (found : MatchResult) :
    (dispatcher.serveWatched level nested controller invocation found).Leads (Beyond level start)
      (AskedOnce level start) := by
  have watched {α : Type} (process : Dispatching State α) :
      (watch process).Leads (Beyond level start) (Beyond level start) := fun _ held => held
  apply (watched _).andThen _ fun _ => Beyond.askedOnce
  rintro (error | arguments)
  · exact fun _ => Beyond.askedOnce
  apply (watched _).andThen _ fun _ => Beyond.askedOnce
  rintro (error | chain)
  · exact fun _ => Beyond.askedOnce
  apply (execute_watched_leads (served start) controller invocation chain arguments).andThen _
    fun _ => Beyond.askedOnce
  rintro (fault | value)
  · exact settle_watched_leads served fault
  · exact fun _ held => (watched _ held).askedOnce

/-- On its own level a run asks the exception handlers about one fault at most. -/
theorem run_watched_asks_once (limit level : Nat) (dispatcher : Dispatcher State) (path : String)
    (world : Watched State) :
    AskedOnce level world.consultations (dispatcher.runWatched limit level path world).2 := by
  induction limit generalizing level dispatcher path world with
  | zero => exact (beyond_start level world).askedOnce
  | succ limit ih =>
      unfold runWatched
      dsimp only
      cases dispatcher.select world.context.exchange.request path with
      | none => exact (beyond_start level world).askedOnce
      | some selected =>
          obtain ⟨⟨handler, invocation⟩, found⟩ := selected
          refine serve_watched_leads ?_ handler.type invocation found (beyond_start level world)
          -- What a nested path asks is asked one level below, so this level may still ask once.
          intro start path inner beyond
          dsimp only
          cases inner.context.attached with
          | none => exact beyond
          | some attached => exact beyond.then_asked (ih (level + 1) attached path inner)

theorem nested_watched_leads (limit level : Nat) (start : List Consultation) (path : String) :
    Process.Leads (Beyond level start) (Beyond level start)
      (nestedWatched limit (level + 1) path :
        Process (Watched State) (Except DispatchError Unit)) := by
  intro world beyond
  unfold nestedWatched
  cases world.context.attached with
  | none => exact beyond
  | some attached =>
      exact beyond.then_asked (run_watched_asks_once limit (level + 1) attached path world)

end

end Dispatcher
end RequestDispatch
