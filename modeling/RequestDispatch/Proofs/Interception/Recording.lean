import RequestDispatch.Proofs.Process

/-!
Recorded executions. Interceptors and the terminal are made to note what happens to them: an
interceptor when it is entered, whenever the call that it let proceed has come back to it, and when
it is left, the terminal when it is called. The events stand beside the world, and nothing but the
notes reads them, so a recorded chain does what the chain does (`execute_recording`).
-/

namespace RequestDispatch

/-- What happens in the execution of a chain. Interceptors are told by their depth, the outermost is
at depth zero. Arguments are those that the interceptor or the terminal has at that moment. -/
inductive CallEvent where
  | entered (depth : Nat) (arguments : Arguments)
  /-- The call that the interceptor let proceed has come back to it with this result. -/
  | returned (depth : Nat) (result : CallResult) (arguments : Arguments)
  | left (depth : Nat) (result : CallResult)
  /-- The terminal is called. -/
  | called (arguments : Arguments)

namespace CallEvent

def isEntered (depth : Nat) : CallEvent → Bool
  | .entered place _ => place == depth
  | _ => false

def isCalled : CallEvent → Bool
  | .called _ => true
  | _ => false

end CallEvent

variable {World State : Type}

/-- What a recording interceptor reads and writes. -/
structure Recorder (State : Type) where
  state : State
  events : List CallEvent
  /-- Whether the state is to be written as well. Notes alone leave the world as it is. -/
  keepsState : Bool

def Part.recorded (part : Part World State) : Part (World × List CallEvent) (Recorder State) where
  get := fun place => ⟨part.get place.1, place.2, false⟩
  set := fun recorder place =>
    (if recorder.keepsState then part.set recorder.state place.1 else place.1, recorder.events)

namespace Advice

def note (event : CallEvent) (next : Advice (Recorder State)) : Advice (Recorder State) :=
  .recall fun recorder => .keep { recorder with events := recorder.events ++ [event] } next

/-- The advice, with notes of the calls that come back to it and of its end. -/
def recording (depth : Nat) : Advice State → Advice (Recorder State)
  | .finish result => note (.left depth result) (.finish result)
  | .abandon => .abandon
  | .report entry next => .report entry (next.recording depth)
  | .recall next => .recall fun recorder => (next recorder.state).recording depth
  | .keep state next => .recall fun recorder =>
    .keep { recorder with state := state, keepsState := true } (next.recording depth)
  | .inspect next => .inspect fun point remaining => (next point remaining).recording depth
  | .setArgument index value next =>
    .setArgument index value fun answer => (next answer).recording depth
  | .setNamed name value next => .setNamed name value fun found => (next found).recording depth
  | .setArguments arguments next => .setArguments arguments (next.recording depth)
  | .proceed next => .proceed fun result => .inspect fun point _ =>
    note (.returned depth result point.arguments) ((next result).recording depth)

end Advice

def Interceptor.recording (interceptor : Interceptor State) (depth : Nat) :
    Interceptor (Recorder State) where
  name := interceptor.name
  advice := .inspect fun point _ =>
    Advice.note (.entered depth point.arguments) (interceptor.advice.recording depth)

namespace InterceptorChain

def recordingFrom : Nat → List (Interceptor State) → List (Interceptor (Recorder State))
  | _, [] => []
  | depth, interceptor :: rest => interceptor.recording depth :: recordingFrom (depth + 1) rest

def recording (chain : InterceptorChain State) : InterceptorChain (Recorder State) :=
  ⟨chain.method, recordingFrom 0 chain.interceptors⟩

def recordingTerminal (terminal : Arguments → Process World CallResult) (arguments : Arguments) :
    Process (World × List CallEvent) CallResult := fun place =>
  let answer := terminal arguments place.1
  (answer.1, answer.2, place.2 ++ [.called arguments])

theorem length_recordingFrom (depth : Nat) (interceptors : List (Interceptor State)) :
    (recordingFrom depth interceptors).length = interceptors.length := by
  induction interceptors generalizing depth with
  | nil => rfl
  | cons interceptor rest ih => simp [recordingFrom, ih]

end InterceptorChain

def SameWorld (place : World × List CallEvent) (world : World) : Prop := place.1 = world

theorem Process.Related.run_of_recorded {noted : Process (World × List CallEvent) CallResult}
    {plain : Process World CallResult} (alike : Related SameWorld noted plain)
    {place after : World × List CallEvent} {result : CallResult}
    (run : noted place = (some result, after)) : plain place.1 = (some result, after.1) := by
  obtain ⟨same, between⟩ := alike (show SameWorld place place.1 from rfl)
  rw [run] at same between
  exact Prod.ext same.symm between.symm

theorem Advice.recording_related (part : Part World State)
    {noted : Arguments → Process (World × List CallEvent) CallResult}
    {inner : Arguments → Process World CallResult}
    (alike : ∀ arguments, Process.Related SameWorld (noted arguments) (inner arguments))
    (depth remaining : Nat) (advice : Advice State) (point : JoinPoint) :
    Process.Related SameWorld ((advice.recording depth).run part.recorded noted remaining point)
      (advice.run part inner remaining point) := by
  induction advice generalizing point with
  | finish result => exact fun _ _ related => ⟨rfl, related⟩
  | abandon => exact Process.abandon_related
  | report entry next ih => exact ih point
  | «recall» next ih =>
      rintro ⟨_, events⟩ world rfl
      exact ih _ point rfl
  | keep state next ih =>
      rintro ⟨_, events⟩ world rfl
      exact ih point rfl
  | inspect next ih => exact ih point remaining point
  | setArgument index value next ih =>
      simp only [recording, run]
      split
      · exact ih _ _
      · exact ih _ _
  | setNamed name value next ih =>
      simp only [recording, run]
      split
      · exact ih _ _
      · exact ih _ _
  | setArguments arguments next ih => exact ih _
  | proceed next ih =>
      refine (alike point.arguments).andThen fun result => ?_
      rintro ⟨_, events⟩ world rfl
      exact ih result point rfl

theorem InterceptorChain.intercept_recording_related (part : Part World State)
    (terminal : Arguments → Process World CallResult) (method : MethodKey) (names : List String)
    (depth : Nat) (interceptors : List (Interceptor State)) (arguments : Arguments) :
    Process.Related SameWorld
      (intercept part.recorded (recordingTerminal terminal) method names
        (recordingFrom depth interceptors) arguments)
      (intercept part terminal method names interceptors arguments) := by
  induction interceptors generalizing depth arguments with
  | nil =>
      rintro ⟨_, events⟩ world rfl
      exact ⟨rfl, rfl⟩
  | cons interceptor rest ih =>
      simp only [recordingFrom, intercept, length_recordingFrom]
      rintro ⟨_, events⟩ world rfl
      exact Advice.recording_related part (ih (depth + 1)) depth rest.length interceptor.advice _ rfl

/-- A recorded chain ends as the chain does, with the same result and the same world. -/
theorem InterceptorChain.execute_recording (part : Part World State)
    (chain : InterceptorChain State) (terminal : Arguments → Process World CallResult)
    (names : List String) (arguments : Arguments) (world : World) (events : List CallEvent) :
    let recorded := chain.recording.execute part.recorded (recordingTerminal terminal) names
      arguments (world, events)
    (recorded.1, recorded.2.1) = chain.execute part terminal names arguments world := by
  obtain ⟨same, after⟩ := intercept_recording_related part terminal chain.method names 0
    chain.interceptors arguments (show SameWorld (world, events) world from rfl)
  exact Prod.ext same after

/-- Whatever the process notes, it adds to the events. -/
def Process.Adds {Event α : Type} (process : Process (World × List Event) α) : Prop :=
  ∀ place, place.2 <+: (process place).2.2

theorem Process.andThen_begins {Event α β : Type} {first : Process (World × List Event) α}
    {next : α → Process (World × List Event) β} {place : World × List Event} {front : List Event}
    (begins : front <+: (first place).2.2) (continues : ∀ result, (next result).Adds) :
    front <+: (first.andThen next place).2.2 := by
  unfold Process.andThen
  cases step : first place with
  | mk result after =>
      rw [step] at begins
      cases result with
      | none => exact begins
      | some result => exact begins.trans (continues result after)

theorem Process.Adds.andThen {Event α β : Type} {first : Process (World × List Event) α}
    {next : α → Process (World × List Event) β} (begins : first.Adds)
    (continues : ∀ result, (next result).Adds) : (first.andThen next).Adds :=
  fun place => Process.andThen_begins (begins place) continues

theorem Advice.recording_adds (part : Part World State)
    {inner : Arguments → Process (World × List CallEvent) CallResult}
    (adds : ∀ arguments, (inner arguments).Adds) (depth remaining : Nat) (advice : Advice State)
    (point : JoinPoint) :
    ((advice.recording depth).run part.recorded inner remaining point).Adds := by
  induction advice generalizing point with
  | finish result => exact fun place => List.prefix_append place.2 [.left depth result]
  | abandon => exact fun place => List.prefix_rfl
  | report entry next ih => exact ih point
  | «recall» next ih => exact fun place => ih _ point place
  | keep state next ih => exact fun place => ih point (part.set state place.1, place.2)
  | inspect next ih => exact ih point remaining point
  | setArgument index value next ih =>
      simp only [recording, run]
      split
      · exact ih _ _
      · exact ih _ _
  | setNamed name value next ih =>
      simp only [recording, run]
      split
      · exact ih _ _
      · exact ih _ _
  | setArguments arguments next ih => exact ih _
  | proceed next ih =>
      refine (adds point.arguments).andThen fun result place => ?_
      have noted := List.prefix_append place.2 [.returned depth result point.arguments]
      exact noted.trans (ih result point (place.1, _))

theorem InterceptorChain.intercept_recording_adds (part : Part World State)
    (terminal : Arguments → Process World CallResult) (method : MethodKey) (names : List String)
    (depth : Nat) (interceptors : List (Interceptor State)) (arguments : Arguments) :
    (intercept part.recorded (recordingTerminal terminal) method names
      (recordingFrom depth interceptors) arguments).Adds := by
  induction interceptors generalizing depth arguments with
  | nil => exact fun place => List.prefix_append place.2 [.called arguments]
  | cons interceptor rest ih =>
      intro place
      have noted := List.prefix_append place.2 [.entered depth arguments]
      exact noted.trans (Advice.recording_adds part (ih (depth + 1)) depth _ interceptor.advice
        ⟨method, names, arguments⟩ (place.1, _))

def InterceptorChain.firstEvent (chain : InterceptorChain State) (arguments : Arguments) :
    CallEvent :=
  match chain.interceptors with
  | [] => .called arguments
  | _ :: _ => .entered 0 arguments

/-- What a recorded chain notes begins with the arguments that it is given. -/
theorem InterceptorChain.execute_recording_begins (part : Part World State)
    (chain : InterceptorChain State) (terminal : Arguments → Process World CallResult)
    (names : List String) (arguments : Arguments) (place : World × List CallEvent) :
    place.2 ++ [chain.firstEvent arguments] <+: (chain.recording.execute part.recorded
      (recordingTerminal terminal) names arguments place).2.2 := by
  obtain ⟨method, interceptors⟩ := chain
  cases interceptors with
  | nil => exact List.prefix_rfl
  | cons interceptor rest =>
      exact Advice.recording_adds part
        (intercept_recording_adds part terminal method names 1 rest) 0 _ interceptor.advice
        ⟨method, names, arguments⟩ (place.1, _)

end RequestDispatch
