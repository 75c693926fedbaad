import RequestDispatch.Dispatch.Program
import RequestDispatch.Interception.Chain

/-!
Processes in related worlds. What handlers and interceptors do depends on a world only through the
part they are given, so they give the same results in related worlds and leave related worlds. Two
worlds may be related by what one of them leaves out; that a process keeps a property of its world
is the case of a world that is related to itself.
-/

namespace RequestDispatch

variable {First Second World State Held α β : Type}

/-- The part holds the same in related worlds, and writing to it leaves them related. -/
structure Part.Related (relation : First → Second → Prop) (first : Part First Held)
    (second : Part Second Held) : Prop where
  get : ∀ ⦃one other⦄, relation one other → first.get one = second.get other
  set : ∀ ⦃one other⦄ (held : Held), relation one other →
    relation (first.set held one) (second.set held other)

namespace Process

/-- From related worlds the processes come to the same result and to related worlds. -/
def Related (relation : First → Second → Prop) (first : Process First α)
    (second : Process Second α) : Prop :=
  ∀ ⦃one other⦄, relation one other →
    (first one).1 = (second other).1 ∧ relation (first one).2 (second other).2

variable {relation : First → Second → Prop}

theorem done_related (result : α) : Related relation (done result) (done result) :=
  fun _ _ related => ⟨rfl, related⟩

theorem abandon_related :
    Related relation (abandon : Process First α) (abandon : Process Second α) :=
  fun _ _ related => ⟨rfl, related⟩

theorem Related.andThen {first : Process First α} {second : Process Second α}
    {next : α → Process First β} {following : α → Process Second β}
    (begins : Related relation first second)
    (continues : ∀ result, Related relation (next result) (following result)) :
    Related relation (first.andThen next) (second.andThen following) := by
  intro one other related
  obtain ⟨same, after⟩ := begins related
  unfold Process.andThen
  cases left : first one with
  | mk result world =>
      cases right : second other with
      | mk answer place =>
          rw [left, right] at same after
          cases same
          cases result with
          | none => exact ⟨rfl, after⟩
          | some result => exact continues result after

/-- From a world with the first property the process leads to a world with the second. -/
def Leads (before after : World → Prop) (process : Process World α) : Prop :=
  ∀ ⦃world⦄, before world → after (process world).2

theorem done_leads {property : World → Prop} (result : α) : (done result).Leads property property :=
  fun _ held => held

theorem Leads.andThen {before between after : World → Prop} {process : Process World α}
    {next : α → Process World β} (begins : process.Leads before between)
    (continues : ∀ result, (next result).Leads between after)
    (abandoned : ∀ world, between world → after world) :
    (process.andThen next).Leads before after := by
  intro world held
  have middle := begins held
  unfold Process.andThen
  cases step : process world with
  | mk result place =>
      rw [step] at middle
      cases result with
      | none => exact abandoned place middle
      | some result => exact continues result middle

/-- A process that is related to itself in every world with a property keeps the property. -/
theorem leads_iff_related {property : World → Prop} {process : Process World α} :
    process.Leads property property ↔
      Related (fun one other => one = other ∧ property one) process process := by
  constructor
  · rintro keeps one other ⟨rfl, held⟩
    exact ⟨rfl, rfl, keeps held⟩
  · intro related world held
    exact (related ⟨rfl, held⟩).2.2

end Process

section

variable {relation : First → Second → Prop}

/-- Programs do the same in related worlds, if the paths nested in them are served alike. -/
theorem Program.run_related {first : Part First (Exchange State)}
    {second : Part Second (Exchange State)} (parts : Part.Related relation first second)
    {nested : String → Process First (Except DispatchError Unit)}
    {served : String → Process Second (Except DispatchError Unit)}
    (alike : ∀ path, Process.Related relation (nested path) (served path))
    (program : Program State α) :
    Process.Related relation (program.run first nested) (program.run second served) := by
  induction program with
  | finish result => exact Process.done_related result
  | abandon => exact Process.abandon_related
  | look next ih =>
      intro one other related
      simp only [run, parts.get related]
      exact ih _ related
  | act action next ih =>
      intro one other related
      simp only [run, parts.get related]
      exact ih _ (parts.set _ related)
  | nest path next ih => exact (alike path).andThen ih

theorem Advice.run_related {first : Part First State} {second : Part Second State}
    (parts : Part.Related relation first second)
    {inner : Arguments → Process First CallResult} {core : Arguments → Process Second CallResult}
    (alike : ∀ arguments, Process.Related relation (inner arguments) (core arguments))
    (remaining : Nat) (advice : Advice State) (point : JoinPoint) :
    Process.Related relation (advice.run first inner remaining point)
      (advice.run second core remaining point) := by
  induction advice generalizing point with
  | finish result => exact Process.done_related result
  | abandon => exact Process.abandon_related
  | report entry next ih => exact ih point
  | «recall» next ih =>
      intro one other related
      simp only [run, parts.get related]
      exact ih _ point related
  | keep state next ih =>
      intro one other related
      exact ih point (parts.set state related)
  | inspect next ih => exact ih point remaining point
  | setArgument index value next ih =>
      simp only [run]
      split
      · exact ih _ _
      · exact ih _ _
  | setNamed name value next ih =>
      simp only [run]
      split
      · exact ih _ _
      · exact ih _ _
  | setArguments arguments next ih => exact ih _
  | proceed next ih => exact (alike point.arguments).andThen fun result => ih result point

theorem InterceptorChain.intercept_related {first : Part First State} {second : Part Second State}
    (parts : Part.Related relation first second)
    {terminal : Arguments → Process First CallResult} {core : Arguments → Process Second CallResult}
    (alike : ∀ arguments, Process.Related relation (terminal arguments) (core arguments))
    (method : MethodKey) (names : List String) (interceptors : List (Interceptor State))
    (arguments : Arguments) :
    Process.Related relation (intercept first terminal method names interceptors arguments)
      (intercept second core method names interceptors arguments) := by
  induction interceptors generalizing arguments with
  | nil => exact alike arguments
  | cons interceptor rest ih =>
      exact Advice.run_related parts ih rest.length interceptor.advice ⟨method, names, arguments⟩

end

section

variable {property : World → Prop}

theorem Part.related_of_keeps {part : Part World Held}
    (keeps : ∀ held world, property world → property (part.set held world)) :
    Part.Related (fun one other => one = other ∧ property one) part part := by
  constructor
  · rintro one _ ⟨rfl, _⟩
    rfl
  · rintro one _ written ⟨rfl, held⟩
    exact ⟨rfl, keeps written one held⟩

theorem Program.run_leads {part : Part World (Exchange State)}
    (keeps : ∀ exchange world, property world → property (part.set exchange world))
    {nested : String → Process World (Except DispatchError Unit)}
    (served : ∀ path, (nested path).Leads property property) (program : Program State α) :
    (program.run part nested).Leads property property := by
  refine Process.leads_iff_related.2 ?_
  apply run_related (Part.related_of_keeps keeps)
  intro path
  exact Process.leads_iff_related.1 (served path)

theorem InterceptorChain.intercept_leads {part : Part World State}
    (keeps : ∀ state world, property world → property (part.set state world))
    {terminal : Arguments → Process World CallResult}
    (called : ∀ arguments, (terminal arguments).Leads property property)
    (method : MethodKey) (names : List String) (interceptors : List (Interceptor State))
    (arguments : Arguments) :
    (intercept part terminal method names interceptors arguments).Leads property property := by
  refine Process.leads_iff_related.2 ?_
  apply intercept_related (Part.related_of_keeps keeps)
  intro arguments
  exact Process.leads_iff_related.1 (called arguments)

end
end RequestDispatch
