import RequestDispatch.Interception.BuiltIn
import RequestDispatch.Proofs.Except
import RequestDispatch.Proofs.Interception.Recording
import RequestDispatch.Proofs.Steps

/-!
Interceptors that only watch make no difference. Wherever they stand in a chain and however many
they are, without them the execution is what it was with them; only the number of interceptors
inside, which an interceptor may put into a diagnostic text, is another one
(`execute_without_watching`).
-/

namespace RequestDispatch

variable {World State : Type}

namespace Advice

/-- The advice without what it tells the log, and as if so many interceptors were inside. -/
def silent (count : Nat) : Advice State → Advice State
  | .finish result => .finish result
  | .abandon => .abandon
  | .report _ next => next.silent count
  | .recall next => .recall fun state => (next state).silent count
  | .keep state next => .keep state (next.silent count)
  | .inspect next => .inspect fun point _ => (next point count).silent count
  | .setArgument index value next =>
    .setArgument index value fun answer => (next answer).silent count
  | .setNamed name value next => .setNamed name value fun found => (next found).silent count
  | .setArguments arguments next => .setArguments arguments (next.silent count)
  | .proceed next => .proceed fun result => (next result).silent count

/-- Apart from what it tells the log, the advice is the same for every number of interceptors
inside. -/
def Uncounting (advice : Advice State) : Prop :=
  ∀ count other, advice.silent count = advice.silent other

theorem run_silent (part : Part World State) (inner : Arguments → Process World CallResult)
    (count remaining : Nat) (advice : Advice State) (point : JoinPoint) :
    (advice.silent count).run part inner remaining point = advice.run part inner count point := by
  induction advice generalizing point with
  | finish result => rfl
  | abandon => rfl
  | report entry next ih => exact ih point
  | «recall» next ih =>
      funext world
      exact congrFun (ih _ point) world
  | keep state next ih =>
      funext world
      exact congrFun (ih point) (part.set state world)
  | inspect next ih => exact ih point count point
  | setArgument index value next ih =>
      simp only [silent, run]
      split
      · exact ih _ _
      · exact ih _ _
  | setNamed name value next ih =>
      simp only [silent, run]
      split
      · exact ih _ _
      · exact ih _ _
  | setArguments arguments next ih => exact ih _
  | proceed next ih =>
      apply congrArg (inner point.arguments).andThen
      funext result
      exact ih result point

theorem Uncounting.run {advice : Advice State} (uncounting : advice.Uncounting)
    (part : Part World State) (inner : Arguments → Process World CallResult)
    (count remaining other : Nat) (point : JoinPoint) :
    (advice.silent count).run part inner remaining point =
      advice.run part inner other point := by
  rw [uncounting count other]
  exact run_silent part inner other remaining advice point

/-- It is the same to leave notes of an advice without its log as to take the log from its notes. -/
theorem silent_recording (count depth : Nat) (advice : Advice State) :
    (advice.recording depth).silent count = (advice.silent count).recording depth := by
  induction advice with
  | finish result => rfl
  | abandon => rfl
  | report entry next ih => exact ih
  | «recall» next ih =>
      apply congrArg Advice.recall
      funext recorder
      exact ih recorder.state
  | keep state next ih =>
      apply congrArg Advice.recall
      funext recorder
      exact congrArg (Advice.keep _) ih
  | inspect next ih =>
      apply congrArg Advice.inspect
      funext point _
      exact ih point count
  | setArgument index value next ih =>
      apply congrArg (Advice.setArgument index value)
      funext answer
      exact ih answer
  | setNamed name value next ih =>
      apply congrArg (Advice.setNamed name value)
      funext found
      exact ih found
  | setArguments arguments next ih => exact congrArg (Advice.setArguments arguments) ih
  | proceed next ih =>
      apply congrArg Advice.proceed
      funext result
      apply congrArg Advice.inspect
      funext point _
      exact congrArg (Advice.note (.returned depth result point.arguments)) (ih result)

theorem Uncounting.recording {advice : Advice State} (uncounting : advice.Uncounting)
    (depth : Nat) : (advice.recording depth).Uncounting := by
  intro count other
  rw [silent_recording, silent_recording, uncounting count other]

end Advice

namespace JoinPoint

/-- The points are around one call, with arguments of the same names. -/
def SameCall (one other : JoinPoint) : Prop :=
  other.method = one.method ∧ other.argumentNames = one.argumentNames

variable {point changed : JoinPoint}

theorem setArgument_same_call {index : Nat} {value : Value}
    (set : point.setArgument index value = .ok changed) : point.SameCall changed := by
  obtain ⟨arguments, -, rfl⟩ := map_eq_ok.1 set
  exact ⟨rfl, rfl⟩

theorem setNamed_same_call {name : String} {value : Value}
    (set : point.setNamed? name value = some changed) : point.SameCall changed := by
  obtain ⟨index, -, set⟩ := Option.bind_eq_some_iff.1 set
  exact setArgument_same_call (to_option_eq_some.1 set)

end JoinPoint

namespace Advice

variable {part : Part World State} {inner : Arguments → Process World CallResult}
  {remaining : Nat} {one other : Advice State × JoinPoint × World}

theorem Step.same_call (step : Step part inner remaining one other) :
    one.2.1.SameCall other.2.1 := by
  cases step with
  | changed next world set => exact JoinPoint.setArgument_same_call set
  | named next world set => exact JoinPoint.setNamed_same_call set
  | _ => exact ⟨rfl, rfl⟩

theorem Steps.same_call (steps : Steps part inner remaining one other) :
    one.2.1.SameCall other.2.1 := by
  induction steps with
  | refl => exact ⟨rfl, rfl⟩
  | tail _ step ih =>
      have last := step.same_call
      exact ⟨last.1.trans ih.1, last.2.trans ih.2⟩

end Advice

/-- A place in a chain: an interceptor that only watches, or any other. -/
inductive ChainPlace (State : Type) where
  | logging (showsArguments : Bool)
  | timing (threshold : Nat)
  | other (interceptor : Interceptor State)

namespace ChainPlace

def interceptor : ChainPlace State → Interceptor State
  | .logging showsArguments => .logging showsArguments
  | .timing threshold => .timing threshold
  | .other interceptor => interceptor

def others : List (ChainPlace State) → List (Interceptor State)
  | [] => []
  | .other interceptor :: rest => interceptor :: others rest
  | .logging _ :: rest | .timing _ :: rest => others rest

/-- The interceptors that do more than watch, each without its log and as if as many interceptors
were inside as there are in the whole chain. -/
def silentOthers : List (ChainPlace State) → List (Interceptor State)
  | [] => []
  | .other interceptor :: rest =>
    ⟨interceptor.name, interceptor.advice.silent rest.length⟩ :: silentOthers rest
  | .logging _ :: rest | .timing _ :: rest => silentOthers rest

/-- The places with notes of what the others do, which are counted from this depth on. -/
def recordingOthers (depth : Nat) :
    List (ChainPlace State) → List (ChainPlace (Recorder State))
  | [] => []
  | .other interceptor :: rest =>
    .other (interceptor.recording depth) :: recordingOthers (depth + 1) rest
  | .logging showsArguments :: rest => .logging showsArguments :: recordingOthers depth rest
  | .timing threshold :: rest => .timing threshold :: recordingOthers depth rest

theorem length_recordingOthers (depth : Nat) (places : List (ChainPlace State)) :
    (recordingOthers depth places).length = places.length := by
  induction places generalizing depth with
  | nil => rfl
  | cons place rest ih => cases place <;> exact congrArg Nat.succ (ih _)

theorem others_recordingOthers (depth : Nat) (places : List (ChainPlace State)) :
    others (recordingOthers depth places) =
      InterceptorChain.recordingFrom depth (others places) := by
  induction places generalizing depth with
  | nil => rfl
  | cons place rest ih =>
      cases place with
      | other interceptor => exact congrArg (interceptor.recording depth :: ·) (ih (depth + 1))
      | _ => exact ih depth

theorem silentOthers_recordingOthers (depth : Nat) (places : List (ChainPlace State)) :
    silentOthers (recordingOthers depth places) =
      InterceptorChain.recordingFrom depth (silentOthers places) := by
  induction places generalizing depth with
  | nil => rfl
  | cons place rest ih =>
      cases place with
      | other interceptor =>
          have same : (interceptor.recording depth).advice.silent rest.length =
              (Interceptor.recording ⟨interceptor.name, interceptor.advice.silent rest.length⟩
                depth).advice := by
            apply congrArg Advice.inspect
            funext point _
            exact congrArg (Advice.note _) (Advice.silent_recording ..)
          simp only [recordingOthers, silentOthers, InterceptorChain.recordingFrom,
            length_recordingOthers, same, ih]
          rfl
      | _ => exact ih depth

end ChainPlace

namespace InterceptorChain

open ChainPlace

variable (part : Part World State) (terminal : Arguments → Process World CallResult)
  (method : MethodKey) (names : List String)

theorem intercept_logging (showsArguments : Bool) (rest : List (Interceptor State))
    (arguments : Arguments) :
    intercept part terminal method names (.logging showsArguments :: rest) arguments =
      intercept part terminal method names rest arguments :=
  Process.andThen_done _

theorem intercept_timing (threshold : Nat) (rest : List (Interceptor State))
    (arguments : Arguments) :
    intercept part terminal method names (.timing threshold :: rest) arguments =
      intercept part terminal method names rest arguments :=
  Process.andThen_done _

/-- What a chain does, those of its interceptors do that do more than watch. -/
theorem intercept_others (places : List (ChainPlace State)) (arguments : Arguments) :
    intercept part terminal method names (places.map ChainPlace.interceptor) arguments =
      intercept part terminal method names (silentOthers places) arguments := by
  induction places generalizing arguments with
  | nil => rfl
  | cons place rest ih =>
      cases place with
      | logging showsArguments => exact (intercept_logging ..).trans (ih arguments)
      | timing threshold => exact (intercept_timing ..).trans (ih arguments)
      | other interceptor =>
          have inside : intercept part terminal method names (rest.map ChainPlace.interceptor) =
              intercept part terminal method names (silentOthers rest) := by
            funext arguments
            exact ih arguments
          simp only [List.map_cons, ChainPlace.interceptor, silentOthers, intercept, inside,
            List.length_map]
          exact (Advice.run_silent ..).symm

theorem intercept_uncounting {places : List (ChainPlace State)}
    (uncounting : ∀ interceptor ∈ others places, interceptor.advice.Uncounting)
    (arguments : Arguments) :
    intercept part terminal method names (silentOthers places) arguments =
      intercept part terminal method names (others places) arguments := by
  induction places generalizing arguments with
  | nil => rfl
  | cons place rest ih =>
      cases place with
      | other interceptor =>
          rw [others, List.forall_mem_cons] at uncounting
          have inside : intercept part terminal method names (silentOthers rest) =
              intercept part terminal method names (others rest) := by
            funext arguments
            exact ih uncounting.2 arguments
          simp only [others, silentOthers, intercept, inside]
          exact uncounting.1.run ..
      | _ => exact ih uncounting arguments

theorem uncounting_recordingFrom {interceptors : List (Interceptor State)}
    (uncounting : ∀ interceptor ∈ interceptors, interceptor.advice.Uncounting) (depth : Nat) :
    ∀ interceptor ∈ recordingFrom depth interceptors, interceptor.advice.Uncounting := by
  induction interceptors generalizing depth with
  | nil =>
      intro interceptor member
      cases member
  | cons interceptor rest ih =>
      rw [List.forall_mem_cons] at uncounting
      rw [recordingFrom, List.forall_mem_cons]
      constructor
      · intro count other
        apply congrArg Advice.inspect
        funext point _
        exact congrArg (Advice.note _) (uncounting.1.recording depth count other)
      · exact ih uncounting.2 (depth + 1)

end InterceptorChain

/-- Without those of its interceptors that only watch, a chain comes to the same result and the same
world, and the terminal and the other interceptors get the same arguments and see the same results
come back to them, as their notes show. The number of interceptors inside is the only difference: it
makes none if the others are told the number in the whole chain, or if they do not look at it but to
tell it to the log. Of the call itself the method and the names are those of the execution. -/
theorem InterceptorChain.execute_without_watching (part : Part World State)
    (terminal : Arguments → Process World CallResult) (method : MethodKey) (names : List String)
    (places : List (ChainPlace State)) (arguments : Arguments) (world : World) :
    let whole : InterceptorChain State := ⟨method, places.map ChainPlace.interceptor⟩
    let others : InterceptorChain State := ⟨method, ChainPlace.others places⟩
    let silent : InterceptorChain State := ⟨method, ChainPlace.silentOthers places⟩
    let noting : InterceptorChain (Recorder State) :=
      ⟨method, (ChainPlace.recordingOthers 0 places).map ChainPlace.interceptor⟩
    let run (chain : InterceptorChain State) : Option CallResult × World :=
      chain.execute part terminal names arguments world
    let noted (chain : InterceptorChain (Recorder State)) :
        Option CallResult × World × List CallEvent :=
      chain.execute part.recorded (recordingTerminal terminal) names arguments (world, [])
    (run whole = run silent ∧ noted noting = noted silent.recording) ∧
    ((∀ interceptor ∈ others.interceptors, interceptor.advice.Uncounting) →
      run whole = run others ∧ noted noting = noted others.recording) ∧
    ∀ inner remaining advice received before left point after,
      Advice.Steps part inner remaining (advice, ⟨method, names, received⟩, before)
        (left, point, after) → point.method = method ∧ point.argumentNames = names := by
  intro whole others silent noting run noted
  have alike : run whole = run silent :=
    congrFun (intercept_others part terminal method names places arguments) world
  have alsoNoted : noted noting = noted silent.recording := by
    have same := congrFun (intercept_others part.recorded (recordingTerminal terminal) method names
      (ChainPlace.recordingOthers 0 places) arguments) (world, [])
    rw [ChainPlace.silentOthers_recordingOthers] at same
    exact same
  refine ⟨⟨alike, alsoNoted⟩, ?_, ?_⟩
  · intro uncounting
    constructor
    · rw [alike]
      exact congrFun (intercept_uncounting part terminal method names uncounting arguments) world
    · have recorded := uncounting_recordingFrom uncounting 0
      rw [← ChainPlace.others_recordingOthers] at recorded
      have same := congrFun (intercept_uncounting part.recorded (recordingTerminal terminal) method
        names recorded arguments) (world, [])
      rw [ChainPlace.silentOthers_recordingOthers, ChainPlace.others_recordingOthers] at same
      rw [alsoNoted]
      exact same
  · intro inner remaining advice received before left point after steps
    exact steps.same_call

/-- An interceptor that answers whether it is the innermost one is told another number. -/
example :
    let counting : Interceptor Unit :=
      ⟨"Counting", .inspect fun _ remaining => .finish (.ok (.bool (remaining == 0)))⟩
    let answer (places : List (ChainPlace Unit)) : Option CallResult :=
      ((⟨⟨⟨"Users"⟩, "show"⟩, places.map ChainPlace.interceptor⟩ : InterceptorChain Unit).execute
        (Part.whole Unit) (fun _ => .done (.ok .null)) [] ⟨[]⟩ ()).1
    answer [.other counting, .timing 500] = some (.ok (.bool false)) ∧
      answer [.other counting] = some (.ok (.bool true)) :=
  ⟨rfl, rfl⟩

end RequestDispatch
