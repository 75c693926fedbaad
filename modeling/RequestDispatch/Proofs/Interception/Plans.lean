import RequestDispatch.Proofs.Interception.Recording

/-!
Interceptors that follow plans. A plan says which updates an interceptor makes to the arguments
before it lets the call proceed, and how often it lets it proceed. An interceptor with a plan ends
unless what lies inside of it is abandoned, and so does a chain of them (`intercept_abandoned`);
the events of a recorded chain that ends are those of its plans, level by level
(`intercept_recording`).
-/

namespace RequestDispatch

/-- An update of the argument at an index, of the first argument of a name, or of all arguments. -/
inductive Update where
  | atIndex (index : Nat) (value : Value)
  | ofName (name : String) (value : Value)
  | whole (arguments : Arguments)

namespace Update

def replace (arguments : Arguments) (index : Nat) (value : Value) : Arguments :=
  if index < arguments.length then ⟨arguments.values.set index value⟩ else arguments

/-- What an update makes of arguments with these names. A name that is unknown changes nothing. -/
def apply (names : List String) (arguments : Arguments) : Update → Arguments
  | .atIndex index value => replace arguments index value
  | .ofName name value =>
    match names.idxOf? name with
    | some index => replace arguments index value
    | none => arguments
  | .whole others => others

end Update

/-- What an interceptor does whenever it is invoked: it updates the arguments and then lets the call
proceed so many times. -/
structure Plan where
  updates : List Update
  proceeds : Nat

namespace Plan

def change (names : List String) (arguments : Arguments) (plan : Plan) : Arguments :=
  plan.updates.foldl (Update.apply names) arguments

def changeAll (names : List String) (plans : List Plan) (arguments : Arguments) : Arguments :=
  plans.foldl (change names) arguments

end Plan

namespace JoinPoint

def updated (point : JoinPoint) (update : Update) : JoinPoint :=
  { point with arguments := update.apply point.argumentNames point.arguments }

theorem updated_atIndex (point : JoinPoint) (index : Nat) (value : Value) :
    point.updated (.atIndex index value) =
      (point.setArgument index value).toOption.getD point := by
  simp only [updated, Update.apply, Update.replace, setArgument, Arguments.set]
  split
  · rfl
  · rfl

theorem updated_ofName (point : JoinPoint) (name : String) (value : Value) :
    point.updated (.ofName name value) = (point.setNamed? name value).getD point := by
  unfold setNamed? position?
  cases known : point.argumentNames.idxOf? name with
  | none => simp [updated, Update.apply, known]
  | some index =>
      have same : point.updated (.ofName name value) = point.updated (.atIndex index value) := by
        simp [updated, Update.apply, known]
      rw [same, updated_atIndex]
      rfl

end JoinPoint

namespace Advice

variable {World State : Type}

theorem run_setArgument (part : Part World State) (inner : Arguments → Process World CallResult)
    (remaining index : Nat) (value : Value) (next : Except ValueError Unit → Advice State)
    (point : JoinPoint) :
    (setArgument index value next).run part inner remaining point =
      (next ((point.setArgument index value).map fun _ => ())).run part inner remaining
        (point.updated (.atIndex index value)) := by
  rw [JoinPoint.updated_atIndex]
  simp only [run]
  cases point.setArgument index value with
  | ok changed => rfl
  | error error => rfl

theorem run_setNamed (part : Part World State) (inner : Arguments → Process World CallResult)
    (remaining : Nat) (name : String) (value : Value) (next : Bool → Advice State)
    (point : JoinPoint) :
    (setNamed name value next).run part inner remaining point =
      (next (point.setNamed? name value).isSome).run part inner remaining
        (point.updated (.ofName name value)) := by
  rw [JoinPoint.updated_ofName]
  simp only [run]
  cases point.setNamed? name value with
  | some changed => rfl
  | none => rfl

/-- Carried out from a world, the advice makes just these updates before it first lets the call
proceed, lets it proceed so many times, and ends. Each time `within` holds of the arguments and the
world that the call goes on with; if it is abandoned, nothing more is asked. Once no proceeding is
left, other updates may follow. -/
def Follows (part : Part World State) (inner : Arguments → Process World CallResult)
    (within : Arguments → World → Prop) (remaining : Nat) :
    Advice State → List Update → Nat → JoinPoint → World → Prop
  | .finish _, _, proceeds, _, _ => proceeds = 0
  | .abandon, _, _, _, _ => False
  | .report _ next, updates, proceeds, point, world =>
    next.Follows part inner within remaining updates proceeds point world
  | .recall next, updates, proceeds, point, world =>
    (next (part.get world)).Follows part inner within remaining updates proceeds point world
  | .keep state next, updates, proceeds, point, world =>
    next.Follows part inner within remaining updates proceeds point (part.set state world)
  | .inspect next, updates, proceeds, point, world =>
    (next point remaining).Follows part inner within remaining updates proceeds point world
  | .setArgument index value next, updates, proceeds, point, world =>
    ∃ later, (proceeds = 0 ∨ updates = .atIndex index value :: later) ∧
      (next ((point.setArgument index value).map fun _ => ())).Follows part inner within remaining
        later proceeds (point.updated (.atIndex index value)) world
  | .setNamed name value next, updates, proceeds, point, world =>
    ∃ later, (proceeds = 0 ∨ updates = .ofName name value :: later) ∧
      (next (point.setNamed? name value).isSome).Follows part inner within remaining
        later proceeds (point.updated (.ofName name value)) world
  | .setArguments arguments next, updates, proceeds, point, world =>
    ∃ later, (proceeds = 0 ∨ updates = .whole arguments :: later) ∧
      next.Follows part inner within remaining later proceeds (point.updated (.whole arguments))
        world
  | .proceed next, updates, proceeds, point, world =>
    updates = [] ∧ within point.arguments world ∧ ∃ fewer, proceeds = fewer + 1 ∧
      ∀ result after, inner point.arguments world = (some result, after) →
        (next result).Follows part inner within remaining [] fewer point after

variable {part : Part World State} {inner : Arguments → Process World CallResult}
  {within : Arguments → World → Prop} {remaining : Nat} {advice : Advice State}
  {updates : List Update} {proceeds : Nat} {point : JoinPoint} {own : Arguments}

def Brings (point : JoinPoint) (updates : List Update) (proceeds : Nat) (own : Arguments) : Prop :=
  proceeds ≠ 0 → updates.foldl (Update.apply point.argumentNames) point.arguments = own

theorem Brings.updated {update : Update} {later : List Update}
    (brings : Brings point updates proceeds own)
    (planned : proceeds = 0 ∨ updates = update :: later) :
    Brings (point.updated update) later proceeds own := by
  intro goes
  obtain stays | rfl := planned
  · exact absurd stays goes
  · exact brings goes

/-- Only the call that it lets proceed keeps an advice with a plan from ending. -/
theorem Follows.run_abandoned {world after : World}
    (follows : advice.Follows part inner within remaining updates proceeds point world)
    (brings : Brings point updates proceeds own)
    (abandoned : advice.run part inner remaining point world = (none, after)) :
    ∃ last, within own last ∧ inner own last = (none, after) := by
  induction advice generalizing updates proceeds point world with
  | finish result => cases abandoned
  | abandon => exact follows.elim
  | report entry next ih => exact ih follows brings abandoned
  | «recall» next ih => exact ih _ follows brings abandoned
  | keep state next ih => exact ih follows brings abandoned
  | inspect next ih => exact ih _ _ follows brings abandoned
  | setArgument index value next ih =>
      obtain ⟨later, planned, follows⟩ := follows
      rw [run_setArgument] at abandoned
      exact ih _ follows (brings.updated planned) abandoned
  | setNamed name value next ih =>
      obtain ⟨later, planned, follows⟩ := follows
      rw [run_setNamed] at abandoned
      exact ih _ follows (brings.updated planned) abandoned
  | setArguments arguments next ih =>
      obtain ⟨later, planned, follows⟩ := follows
      exact ih follows (brings.updated planned) abandoned
  | proceed next ih =>
      obtain ⟨rfl, held, fewer, rfl, follows⟩ := follows
      have same : point.arguments = own := brings (Nat.succ_ne_zero fewer)
      simp only [run, Process.andThen] at abandoned
      rw [same] at abandoned follows held
      cases call : inner own world with
      | mk answer between =>
          rw [call] at abandoned
          cases answer with
          | none =>
              cases abandoned
              exact ⟨world, held, call⟩
          | some result => exact ih result (follows result between call) (fun _ => same) abandoned

end Advice

/-- The events of the calls that an interceptor lets proceed, one after another, if these are the
results that come back to it and the events inside. -/
def CallEvent.trips (depth : Nat) (own : Arguments) (rounds : List (CallResult × List CallEvent)) :
    List CallEvent :=
  rounds.flatMap fun round => round.2 ++ [.returned depth round.1 own]

namespace Advice

variable {World State : Type} {part : Part World State}
  {inner : Arguments → Process World CallResult} {within : Arguments → World → Prop}
  {noted : Arguments → Process (World × List CallEvent) CallResult} {remaining : Nat}
  {advice : Advice State} {updates : List Update} {proceeds : Nat} {point : JoinPoint}
  {own : Arguments}

/-- A recorded advice that follows a plan and ends has noted the calls that it let proceed, and its
end. `Inside` is what is known of the events inside. -/
theorem Follows.run_recording (depth : Nat) {Inside : CallResult → List CallEvent → Prop}
    (alike : ∀ arguments, Process.Related SameWorld (noted arguments) (inner arguments))
    (inside : ∀ world events result after, within own world →
      noted own (world, events) = (some result, after) →
        ∃ log, after.2 = events ++ log ∧ Inside result log)
    {world : World} {events : List CallEvent} {result : CallResult}
    {after : World × List CallEvent}
    (follows : advice.Follows part inner within remaining updates proceeds point world)
    (brings : Brings point updates proceeds own)
    (run : (advice.recording depth).run part.recorded noted remaining point (world, events) =
      (some result, after)) :
    ∃ rounds, rounds.length = proceeds ∧ (∀ round ∈ rounds, Inside round.1 round.2) ∧
      after.2 = events ++ (CallEvent.trips depth own rounds ++ [.left depth result]) := by
  induction advice generalizing updates proceeds point world events with
  | finish answer =>
      cases run
      cases follows
      exact ⟨[], rfl, by simp, rfl⟩
  | abandon => exact follows.elim
  | report entry next ih => exact ih follows brings run
  | «recall» next ih => exact ih _ follows brings run
  | keep state next ih => exact ih follows brings run
  | inspect next ih => exact ih _ _ follows brings run
  | setArgument index value next ih =>
      obtain ⟨later, planned, follows⟩ := follows
      rw [recording, run_setArgument] at run
      exact ih _ follows (brings.updated planned) run
  | setNamed name value next ih =>
      obtain ⟨later, planned, follows⟩ := follows
      rw [recording, run_setNamed] at run
      exact ih _ follows (brings.updated planned) run
  | setArguments arguments next ih =>
      obtain ⟨later, planned, follows⟩ := follows
      exact ih follows (brings.updated planned) run
  | proceed next ih =>
      obtain ⟨rfl, held, fewer, rfl, follows⟩ := follows
      have same : point.arguments = own := brings (Nat.succ_ne_zero fewer)
      simp only [recording, Advice.run, Process.andThen] at run
      rw [same] at run follows held
      cases call : noted own (world, events) with
      | mk answer between =>
          rw [call] at run
          cases answer with
          | none => cases run
          | some answer =>
              -- The plan speaks about the calls that are made without notes.
              have plain : inner own world = (some answer, between.1) :=
                (alike own).run_of_recorded call
              obtain ⟨log, logged, first⟩ := inside world events answer between held call
              have rest : ((next answer).recording depth).run part.recorded noted remaining point
                  (between.1, between.2 ++ [.returned depth answer own]) = (some result, after) :=
                run
              obtain ⟨rounds, count, others, ends⟩ :=
                ih answer (follows answer between.1 plain) (fun _ => same) rest
              refine ⟨(answer, log) :: rounds, by simp [count], ?_, ?_⟩
              · exact List.forall_mem_cons.2 ⟨first, others⟩
              · simp [ends, logged, CallEvent.trips]

end Advice

namespace InterceptorChain

variable {World State : Type}

/-- In an execution from this world every invocation of an interceptor follows the plan that stands
in its place, the outermost first. -/
def Follow (part : Part World State) (terminal : Arguments → Process World CallResult)
    (method : MethodKey) (names : List String) :
    List (Interceptor State) → List Plan → Arguments → World → Prop
  | [], [], _, _ => True
  | interceptor :: rest, plan :: plans, arguments, world =>
    interceptor.advice.Follows part (intercept part terminal method names rest)
      (Follow part terminal method names rest plans) rest.length plan.updates plan.proceeds
      ⟨method, names, arguments⟩ world
  | _, _, _, _ => False

/-- The events of an execution in which everyone follows its plan: each interceptor is entered, the
calls that it lets proceed come back to it one after another, and it is left. -/
def AsPlanned (names : List String) :
    List Plan → Nat → Arguments → CallResult → List CallEvent → Prop
  | [], _, arguments, _, log => log = [.called arguments]
  | plan :: plans, depth, arguments, result, log =>
    ∃ rounds, rounds.length = plan.proceeds ∧
      (∀ round ∈ rounds,
        AsPlanned names plans (depth + 1) (plan.change names arguments) round.1 round.2) ∧
      log = .entered depth arguments ::
        (CallEvent.trips depth (plan.change names arguments) rounds ++ [.left depth result])

variable {part : Part World State} {terminal : Arguments → Process World CallResult}
  {method : MethodKey} {names : List String} {interceptors : List (Interceptor State)}
  {plans : List Plan} {depth : Nat} {arguments : Arguments} {result : CallResult}
  {log : List CallEvent}

theorem Follow.intercept_abandoned {world after : World}
    (follow : Follow part terminal method names interceptors plans arguments world)
    (abandoned : intercept part terminal method names interceptors arguments world =
      (none, after)) :
    ∃ last, terminal (Plan.changeAll names plans arguments) last = (none, after) := by
  induction interceptors generalizing plans arguments world with
  | nil =>
      cases plans with
      | nil => exact ⟨world, abandoned⟩
      | cons plan plans => exact follow.elim
  | cons interceptor rest ih =>
      cases plans with
      | nil => exact follow.elim
      | cons plan plans =>
          obtain ⟨between, others, inside⟩ :=
            Advice.Follows.run_abandoned follow (fun _ => rfl) abandoned
          have ended := ih others inside
          exact ended

/-- What recorded interceptors that follow plans have noted when they end are events as planned. -/
theorem Follow.intercept_recording (depth : Nat) {world : World} {events : List CallEvent}
    {after : World × List CallEvent}
    (follow : Follow part terminal method names interceptors plans arguments world)
    (run : intercept part.recorded (recordingTerminal terminal) method names
      (recordingFrom depth interceptors) arguments (world, events) = (some result, after)) :
    ∃ log, after.2 = events ++ log ∧ AsPlanned names plans depth arguments result log := by
  induction interceptors generalizing plans depth arguments world events result after with
  | nil =>
      cases plans with
      | nil =>
          obtain ⟨_, noted⟩ := Prod.mk.inj run
          exact ⟨_, by rw [← noted], rfl⟩
      | cons plan plans => exact follow.elim
  | cons interceptor rest ih =>
      cases plans with
      | nil => exact follow.elim
      | cons plan plans =>
          simp only [recordingFrom, intercept, length_recordingFrom] at run
          have entered : (interceptor.advice.recording depth).run part.recorded
              (intercept part.recorded (recordingTerminal terminal) method names
                (recordingFrom (depth + 1) rest)) rest.length ⟨method, names, arguments⟩
              (world, events ++ [.entered depth arguments]) = (some result, after) := run
          obtain ⟨rounds, count, planned, ends⟩ :=
            Advice.Follows.run_recording depth
              (intercept_recording_related part terminal method names (depth + 1) rest)
              (fun _ _ _ _ => ih (depth + 1)) follow (fun _ => rfl) entered
          refine ⟨_, ?_, rounds, count, planned, rfl⟩
          rw [List.append_assoc] at ends
          exact ends

end InterceptorChain
end RequestDispatch
