import RequestDispatch.Proofs.Process

/-!
Interceptors that give faults back as they got them. However many of them stand around a terminal,
a fault that the terminal ends with is what their chain ends with, and on its way out nothing is
touched but the state of the application.
-/

namespace RequestDispatch

/-- What was written to a part is read from it, and writing again replaces it. -/
structure Part.Lawful {World Held : Type} (part : Part World Held) : Prop where
  set_get : ∀ world, part.set (part.get world) world = world
  set_set : ∀ first second world, part.set second (part.set first world) = part.set second world

namespace Advice

variable {World State : Type}

/-- Whatever else the advice does, it ends with this fault and does not proceed again. -/
def EndsWith (fault : Fault) : Advice State → Prop
  | .finish result => result = .error fault
  | .abandon => False
  | .report _ next => next.EndsWith fault
  | .recall next => ∀ state, (next state).EndsWith fault
  | .keep _ next => next.EndsWith fault
  | .inspect next => ∀ point remaining, (next point remaining).EndsWith fault
  | .setArgument _ _ next => ∀ answer, (next answer).EndsWith fault
  | .setNamed _ _ next => ∀ found, (next found).EndsWith fault
  | .setArguments _ next => next.EndsWith fault
  | .proceed _ => False

/-- When the call it is around ends with a fault, the advice ends with the same fault. -/
def ReturnsFaults : Advice State → Prop
  | .finish _ => True
  | .abandon => True
  | .report _ next => next.ReturnsFaults
  | .recall next => ∀ state, (next state).ReturnsFaults
  | .keep _ next => next.ReturnsFaults
  | .inspect next => ∀ point remaining, (next point remaining).ReturnsFaults
  | .setArgument _ _ next => ∀ answer, (next answer).ReturnsFaults
  | .setNamed _ _ next => ∀ found, (next found).ReturnsFaults
  | .setArguments _ next => next.ReturnsFaults
  | .proceed next =>
    (∀ fault, (next (.error fault)).EndsWith fault) ∧ ∀ value, (next (.ok value)).ReturnsFaults

/-- The advice, carried out around a call in a world, comes to make the call with these arguments in
that other world; calls that it made before have ended with values. -/
inductive Reaches (part : Part World State) (inner : Arguments → Process World CallResult)
    (remaining : Nat) : Advice State → JoinPoint → World → Arguments → World → Prop
  | proceed {next point world} :
      Reaches part inner remaining (.proceed next) point world point.arguments world
  | again {next point world value after arguments last} :
      inner point.arguments world = (some (.ok value), after) →
        Reaches part inner remaining (next (.ok value)) point after arguments last →
        Reaches part inner remaining (.proceed next) point world arguments last
  | report {entry next point world arguments last} :
      Reaches part inner remaining next point world arguments last →
        Reaches part inner remaining (.report entry next) point world arguments last
  | recalls {next point world arguments last} :
      Reaches part inner remaining (next (part.get world)) point world arguments last →
        Reaches part inner remaining (.recall next) point world arguments last
  | keep {state next point world arguments last} :
      Reaches part inner remaining next point (part.set state world) arguments last →
        Reaches part inner remaining (.keep state next) point world arguments last
  | inspect {next point world arguments last} :
      Reaches part inner remaining (next point remaining) point world arguments last →
        Reaches part inner remaining (.inspect next) point world arguments last
  | changed {index value next point changed world arguments last} :
      point.setArgument index value = .ok changed →
        Reaches part inner remaining (next (.ok ())) changed world arguments last →
        Reaches part inner remaining (.setArgument index value next) point world arguments last
  | unchanged {index value next point error world arguments last} :
      point.setArgument index value = .error error →
        Reaches part inner remaining (next (.error error)) point world arguments last →
        Reaches part inner remaining (.setArgument index value next) point world arguments last
  | named {name value next point changed world arguments last} :
      point.setNamed? name value = some changed →
        Reaches part inner remaining (next true) changed world arguments last →
        Reaches part inner remaining (.setNamed name value next) point world arguments last
  | unnamed {name value next point world arguments last} :
      point.setNamed? name value = none →
        Reaches part inner remaining (next false) point world arguments last →
        Reaches part inner remaining (.setNamed name value next) point world arguments last
  | replaced {given next point world arguments last} :
      Reaches part inner remaining next { point with arguments := given } world arguments last →
        Reaches part inner remaining (.setArguments given next) point world arguments last

variable {part : Part World State} {inner : Arguments → Process World CallResult}
  {remaining : Nat} {advice : Advice State}

theorem run_of_endsWith (lawful : part.Lawful) {fault : Fault} (ends : advice.EndsWith fault)
    (point : JoinPoint) (world : World) :
    ∃ state, advice.run part inner remaining point world =
      (some (.error fault), part.set state world) := by
  induction advice generalizing point world with
  | finish result =>
      cases ends
      exact ⟨part.get world, by rw [lawful.set_get]; rfl⟩
  | abandon => cases ends
  | report entry next ih => exact ih ends point world
  | «recall» next ih => exact ih _ (ends _) point world
  | keep state next ih =>
      obtain ⟨last, run⟩ := ih ends point (part.set state world)
      rw [lawful.set_set] at run
      exact ⟨last, run⟩
  | inspect next ih => exact ih _ _ (ends _ _) point world
  | setArgument index value next ih =>
      simp only [run]
      cases point.setArgument index value with
      | ok changed => exact ih _ (ends _) changed world
      | error error => exact ih _ (ends _) point world
  | setNamed name value next ih =>
      simp only [run]
      cases point.setNamed? name value with
      | some changed => exact ih _ (ends _) changed world
      | none => exact ih _ (ends _) point world
  | setArguments arguments next ih => exact ih ends _ world
  | proceed next => cases ends

/-- If the call that the advice comes to make ends with a fault, the advice ends with it. -/
theorem run_of_reaches (lawful : part.Lawful) (returns : advice.ReturnsFaults) {point : JoinPoint}
    {world last after : World} {arguments : Arguments} {fault : Fault}
    (reaches : advice.Reaches part inner remaining point world arguments last)
    (failed : inner arguments last = (some (.error fault), after)) :
    ∃ state, advice.run part inner remaining point world =
      (some (.error fault), part.set state after) := by
  induction reaches with
  | @proceed next point world =>
      simp only [Advice.run, Process.andThen, failed]
      exact run_of_endsWith lawful (returns.1 fault) point after
  | @again next point world value middle _ _ proceeded _ ih =>
      obtain ⟨state, run⟩ := ih (returns.2 value) failed
      refine ⟨state, ?_⟩
      simp only [Advice.run, Process.andThen, proceeded]
      exact run
  | report _ ih => exact ih returns failed
  | recalls _ ih => exact ih (returns _) failed
  | keep _ ih => exact ih returns failed
  | inspect _ ih => exact ih (returns _ _) failed
  | changed set _ ih =>
      simp only [Advice.run, set]
      exact ih (returns _) failed
  | unchanged set _ ih =>
      simp only [Advice.run, set]
      exact ih (returns _) failed
  | named set _ ih =>
      simp only [Advice.run, set]
      exact ih (returns _) failed
  | unnamed set _ ih =>
      simp only [Advice.run, set]
      exact ih (returns _) failed
  | replaced _ ih => exact ih returns failed

end Advice

namespace InterceptorChain

variable {World State : Type}

/-- Interceptors around a terminal, called with arguments in a world, come to call the terminal with
these other arguments in that other world. -/
def Enters (part : Part World State) (terminal : Arguments → Process World CallResult)
    (method : MethodKey) (names : List String) :
    List (Interceptor State) → Arguments → World → Arguments → World → Prop
  | [], arguments, world, last, entered => last = arguments ∧ entered = world
  | interceptor :: rest, arguments, world, last, entered =>
    ∃ inside middle,
      interceptor.advice.Reaches part (intercept part terminal method names rest) rest.length
        ⟨method, names, arguments⟩ world inside middle ∧
      Enters part terminal method names rest inside middle last entered

theorem intercept_of_enters {part : Part World State}
    {terminal : Arguments → Process World CallResult} {method : MethodKey} {names : List String}
    {interceptors : List (Interceptor State)} {arguments last : Arguments}
    {world entered after : World} {fault : Fault} (lawful : part.Lawful)
    (returns : ∀ interceptor ∈ interceptors, interceptor.advice.ReturnsFaults)
    (enters : Enters part terminal method names interceptors arguments world last entered)
    (failed : terminal last entered = (some (.error fault), after)) :
    ∃ state, intercept part terminal method names interceptors arguments world =
      (some (.error fault), part.set state after) := by
  induction interceptors generalizing arguments world with
  | nil =>
      obtain ⟨rfl, rfl⟩ := enters
      exact ⟨part.get after, by rw [lawful.set_get]; exact failed⟩
  | cons interceptor rest ih =>
      obtain ⟨inside, middle, reaches, enters⟩ := enters
      obtain ⟨own, others⟩ := List.forall_mem_cons.1 returns
      obtain ⟨first, inner⟩ := ih others enters
      obtain ⟨state, outer⟩ := Advice.run_of_reaches lawful own reaches inner
      rw [lawful.set_set] at outer
      exact ⟨state, outer⟩

end InterceptorChain
end RequestDispatch
