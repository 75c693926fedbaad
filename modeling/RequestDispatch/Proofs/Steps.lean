import Mathlib.Logic.Relation
import RequestDispatch.Proofs.Process

/-!
Programs and advice one step at a time. A run ends with a result exactly if steps lead to this end
(`Program.run_eq_some_iff`, `Advice.run_eq_some_iff`), so that steps say in which worlds the code of
a handler or an interceptor is at work. Steps keep what each kind of step keeps.
-/

namespace RequestDispatch

variable {World State α : Type}

namespace Program

/-- What is left of a program, and its world, before and after one step. A nested path is served in
one step if it comes to an answer. -/
inductive Step (part : Part World (Exchange State))
    (nested : String → Process World (Except DispatchError Unit)) :
    Program State α × World → Program State α × World → Prop
  | look (view : Exchange State → Program State α) (world : World) :
      Step part nested (.look view, world) (view (part.get world), world)
  | act (action : Action State) (next : Except DispatchError Unit → Program State α)
      (world : World) :
      Step part nested (.act action next, world)
        (next (action.perform (part.get world)).1,
          part.set (action.perform (part.get world)).2 world)
  | nest {path : String} (next : Except DispatchError Unit → Program State α)
      {world after : World} {answer : Except DispatchError Unit} :
      nested path world = (some answer, after) →
        Step part nested (.nest path next, world) (next answer, after)

def Steps (part : Part World (Exchange State))
    (nested : String → Process World (Except DispatchError Unit)) :
    Program State α × World → Program State α × World → Prop :=
  Relation.ReflTransGen (Step part nested)

variable {part : Part World (Exchange State)}
  {nested : String → Process World (Except DispatchError Unit)}

theorem run_of_step {one other : Program State α × World} (step : Step part nested one other) :
    one.1.run part nested one.2 = other.1.run part nested other.2 := by
  cases step with
  | look => rfl
  | act => rfl
  | nest next served => simp only [run, Process.andThen, served]

theorem run_of_steps {one other : Program State α × World} (steps : Steps part nested one other) :
    one.1.run part nested one.2 = other.1.run part nested other.2 := by
  induction steps with
  | refl => rfl
  | tail _ step ih => exact ih.trans (run_of_step step)

theorem steps_of_run {program : Program State α} {world after : World} {result : α}
    (ends : program.run part nested world = (some result, after)) :
    Steps part nested (program, world) (.finish result, after) := by
  induction program generalizing world with
  | finish => cases ends; exact .refl
  | abandon => cases ends
  | look view ih => exact .head (.look view world) (ih _ ends)
  | act action next ih => exact .head (.act action next world) (ih _ ends)
  | nest path next ih =>
      simp only [run, Process.andThen] at ends
      split at ends
      · next answer middle served => exact .head (.nest next served) (ih _ ends)
      · cases ends

theorem run_eq_some_iff {program : Program State α} {world after : World} {result : α} :
    program.run part nested world = (some result, after) ↔
      Steps part nested (program, world) (.finish result, after) := by
  constructor
  · exact steps_of_run
  · intro steps
    exact run_of_steps steps

theorem Step.keeps {property : World → Prop}
    (acts : ∀ (action : Action State) world, property world →
      property (part.set (action.perform (part.get world)).2 world))
    (served : ∀ path, (nested path).Leads property property)
    {one other : Program State α × World} (step : Step part nested one other)
    (held : property one.2) : property other.2 := by
  cases step with
  | look => exact held
  | act action _ world => exact acts action world held
  | @nest path _ world _ _ answered =>
      have after := served path held
      rw [answered] at after
      exact after

theorem Steps.keeps (property : World → Prop)
    (acts : ∀ (action : Action State) world, property world →
      property (part.set (action.perform (part.get world)).2 world))
    (served : ∀ path, (nested path).Leads property property)
    {one other : Program State α × World} (steps : Steps part nested one other)
    (held : property one.2) : property other.2 := by
  induction steps with
  | refl => exact held
  | tail _ step ih => exact step.keeps acts served ih

/-- A program keeps what actions and nested paths keep, also if it is abandoned. -/
theorem run_keeps {property : World → Prop}
    (acts : ∀ (action : Action State) world, property world →
      property (part.set (action.perform (part.get world)).2 world))
    (served : ∀ path, (nested path).Leads property property) (program : Program State α) :
    (program.run part nested).Leads property property := by
  induction program with
  | finish result => exact Process.done_leads result
  | abandon => exact fun _ held => held
  | look view ih =>
      intro world held
      exact ih (part.get world) held
  | act action next ih =>
      intro world held
      exact ih _ (acts action world held)
  | nest path next ih => exact (served path).andThen ih fun _ held => held

end Program

namespace Advice

/-- What is left of an advice, the call it is around, and its world, before and after one step. To
proceed is one step if it comes to a result. -/
inductive Step (part : Part World State) (inner : Arguments → Process World CallResult)
    (remaining : Nat) : Advice State × JoinPoint × World → Advice State × JoinPoint × World → Prop
  | report (entry : LogEntry) (next : Advice State) (point : JoinPoint) (world : World) :
      Step part inner remaining (.report entry next, point, world) (next, point, world)
  | recalls (next : State → Advice State) (point : JoinPoint) (world : World) :
      Step part inner remaining (.recall next, point, world) (next (part.get world), point, world)
  | keep (state : State) (next : Advice State) (point : JoinPoint) (world : World) :
      Step part inner remaining (.keep state next, point, world) (next, point, part.set state world)
  | inspect (next : JoinPoint → Nat → Advice State) (point : JoinPoint) (world : World) :
      Step part inner remaining (.inspect next, point, world) (next point remaining, point, world)
  | changed {index : Nat} {value : Value} (next : Except ValueError Unit → Advice State)
      {point changed : JoinPoint} (world : World) : point.setArgument index value = .ok changed →
        Step part inner remaining (.setArgument index value next, point, world)
          (next (.ok ()), changed, world)
  | unchanged {index : Nat} {value : Value} (next : Except ValueError Unit → Advice State)
      {point : JoinPoint} {error : ValueError} (world : World) :
      point.setArgument index value = .error error →
        Step part inner remaining (.setArgument index value next, point, world)
          (next (.error error), point, world)
  | named {name : String} {value : Value} (next : Bool → Advice State)
      {point changed : JoinPoint} (world : World) : point.setNamed? name value = some changed →
        Step part inner remaining (.setNamed name value next, point, world)
          (next true, changed, world)
  | unnamed {name : String} {value : Value} (next : Bool → Advice State)
      {point : JoinPoint} (world : World) : point.setNamed? name value = none →
        Step part inner remaining (.setNamed name value next, point, world)
          (next false, point, world)
  | replaced (arguments : Arguments) (next : Advice State) (point : JoinPoint) (world : World) :
      Step part inner remaining (.setArguments arguments next, point, world)
        (next, { point with arguments := arguments }, world)
  | proceed (next : CallResult → Advice State) {point : JoinPoint} {world after : World}
      {result : CallResult} : inner point.arguments world = (some result, after) →
        Step part inner remaining (.proceed next, point, world) (next result, point, after)

def Steps (part : Part World State) (inner : Arguments → Process World CallResult)
    (remaining : Nat) :
    Advice State × JoinPoint × World → Advice State × JoinPoint × World → Prop :=
  Relation.ReflTransGen (Step part inner remaining)

variable {part : Part World State} {inner : Arguments → Process World CallResult}
  {remaining : Nat}

theorem run_of_step {one other : Advice State × JoinPoint × World}
    (step : Step part inner remaining one other) :
    one.1.run part inner remaining one.2.1 one.2.2 =
      other.1.run part inner remaining other.2.1 other.2.2 := by
  cases step with
  | report => rfl
  | recalls => rfl
  | keep => rfl
  | inspect => rfl
  | changed next world set => simp only [run, set]
  | unchanged next world set => simp only [run, set]
  | named next world set => simp only [run, set]
  | unnamed next world set => simp only [run, set]
  | replaced => rfl
  | proceed next proceeded => simp only [run, Process.andThen, proceeded]

theorem run_of_steps {one other : Advice State × JoinPoint × World}
    (steps : Steps part inner remaining one other) :
    one.1.run part inner remaining one.2.1 one.2.2 =
      other.1.run part inner remaining other.2.1 other.2.2 := by
  induction steps with
  | refl => rfl
  | tail _ step ih => exact ih.trans (run_of_step step)

theorem steps_from {one other : Advice State × JoinPoint × World} {after : World}
    {result : CallResult} (step : Step part inner remaining one other)
    (ends : ∃ last, Steps part inner remaining other (.finish result, last, after)) :
    ∃ last, Steps part inner remaining one (.finish result, last, after) := by
  obtain ⟨last, steps⟩ := ends
  exact ⟨last, .head step steps⟩

theorem steps_of_run {advice : Advice State} {point : JoinPoint} {world after : World}
    {result : CallResult}
    (ends : advice.run part inner remaining point world = (some result, after)) :
    ∃ last, Steps part inner remaining (advice, point, world) (.finish result, last, after) := by
  induction advice generalizing point world with
  | finish => cases ends; exact ⟨point, .refl⟩
  | abandon => cases ends
  | report entry next ih => exact steps_from (.report entry next point world) (ih ends)
  | «recall» next ih => exact steps_from (.recalls next point world) (ih _ ends)
  | keep state next ih => exact steps_from (.keep state next point world) (ih ends)
  | inspect next ih => exact steps_from (.inspect next point world) (ih _ _ ends)
  | setArgument index value next ih =>
      simp only [run] at ends
      cases set : point.setArgument index value with
      | ok changed =>
          rw [set] at ends
          exact steps_from (.changed next world set) (ih _ ends)
      | error error =>
          rw [set] at ends
          exact steps_from (.unchanged next world set) (ih _ ends)
  | setNamed name value next ih =>
      simp only [run] at ends
      cases set : point.setNamed? name value with
      | some changed =>
          rw [set] at ends
          exact steps_from (.named next world set) (ih _ ends)
      | none =>
          rw [set] at ends
          exact steps_from (.unnamed next world set) (ih _ ends)
  | setArguments arguments next ih =>
      exact steps_from (.replaced arguments next point world) (ih ends)
  | proceed next ih =>
      simp only [run, Process.andThen] at ends
      split at ends
      · next result middle proceeded => exact steps_from (.proceed next proceeded) (ih _ ends)
      · cases ends

theorem run_eq_some_iff {advice : Advice State} {point : JoinPoint} {world after : World}
    {result : CallResult} :
    advice.run part inner remaining point world = (some result, after) ↔
      ∃ last, Steps part inner remaining (advice, point, world) (.finish result, last, after) := by
  constructor
  · exact steps_of_run
  · rintro ⟨last, steps⟩
    exact run_of_steps steps

theorem Step.keeps {property : World → Prop}
    (keeps : ∀ state world, property world → property (part.set state world))
    (called : ∀ arguments, (inner arguments).Leads property property)
    {one other : Advice State × JoinPoint × World} (step : Step part inner remaining one other)
    (held : property one.2.2) : property other.2.2 := by
  cases step with
  | keep state _ _ world => exact keeps state world held
  | @proceed _ point _ _ _ proceeded =>
      have after := called point.arguments held
      rw [proceeded] at after
      exact after
  | _ => exact held

theorem Steps.keeps {property : World → Prop}
    (keeps : ∀ state world, property world → property (part.set state world))
    (called : ∀ arguments, (inner arguments).Leads property property)
    {one other : Advice State × JoinPoint × World} (steps : Steps part inner remaining one other)
    (held : property one.2.2) : property other.2.2 := by
  induction steps with
  | refl => exact held
  | tail _ step ih => exact step.keeps keeps called ih

end Advice

namespace InterceptorChain

/-- Interceptors around a terminal, called with arguments in a world, come to call the terminal with
these other arguments in that other world, be it for the first time or again. -/
def Calls (part : Part World State) (terminal : Arguments → Process World CallResult)
    (method : MethodKey) (names : List String) :
    List (Interceptor State) → Arguments → World → Arguments → World → Prop
  | [], arguments, world, last, entered => last = arguments ∧ entered = world
  | interceptor :: rest, arguments, world, last, entered =>
    ∃ next point middle,
      Advice.Steps part (intercept part terminal method names rest) rest.length
        (interceptor.advice, ⟨method, names, arguments⟩, world) (.proceed next, point, middle) ∧
      Calls part terminal method names rest point.arguments middle last entered

/-- Until they call the terminal, interceptors keep what writing to the state and the terminal
keep. -/
theorem Calls.keeps {part : Part World State} (property : World → Prop)
    (keeps : ∀ state world, property world → property (part.set state world))
    {terminal : Arguments → Process World CallResult}
    (called : ∀ arguments, (terminal arguments).Leads property property) {method : MethodKey}
    {names : List String} {interceptors : List (Interceptor State)} {arguments last : Arguments}
    {world entered : World}
    (calls : Calls part terminal method names interceptors arguments world last entered)
    (held : property world) : property entered := by
  induction interceptors generalizing arguments world with
  | nil =>
      obtain ⟨-, rfl⟩ := calls
      exact held
  | cons interceptor rest ih =>
      obtain ⟨next, point, middle, steps, calls⟩ := calls
      apply ih calls
      apply steps.keeps keeps _ held
      intro arguments
      exact intercept_leads keeps called method names rest arguments

end InterceptorChain
end RequestDispatch
