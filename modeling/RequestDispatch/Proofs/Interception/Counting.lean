import Mathlib.Algebra.BigOperators.Group.List.Basic
import Mathlib.Data.List.Chain
import RequestDispatch.Proofs.Interception.Plans

/-!
How often interceptors are entered. In an execution in which every interceptor follows its plan each
of them is entered as often as those around it let the call proceed, which is the product of their
numbers, and so is the terminal; all get the arguments that the plans bring about, and get them back
unchanged; and what an interceptor ends with without having let the call proceed is the result that
the one around it sees (`execute_as_planned`).
-/

namespace RequestDispatch
namespace CallEvent

/-- The arguments of the event are those that the plans bring about. -/
def Fits (names : List String) (plans : List Plan) (depth : Nat) (arguments : Arguments) :
    CallEvent → Prop
  | .entered place received =>
    ∃ i, place = depth + i ∧ received = Plan.changeAll names (plans.take i) arguments
  | .returned place _ seen =>
    ∃ i, place = depth + i ∧ seen = Plan.changeAll names (plans.take (i + 1)) arguments
  | .left _ _ => True
  | .called received => received = Plan.changeAll names plans arguments

theorem Fits.outward {names : List String} {plan : Plan} {plans : List Plan} {depth : Nat}
    {arguments : Arguments} {event : CallEvent}
    (fits : event.Fits names plans (depth + 1) (plan.change names arguments)) :
    event.Fits names (plan :: plans) depth arguments := by
  cases event with
  | entered place received =>
      obtain ⟨i, rfl, rfl⟩ := fits
      exact ⟨i + 1, by omega, rfl⟩
  | returned place result seen =>
      obtain ⟨i, rfl, rfl⟩ := fits
      exact ⟨i + 1, by omega, rfl⟩
  | left place result => trivial
  | called received => exact fits

/-- Which event may stand directly behind another, if interceptors at these depths let nothing
proceed. -/
def Succeeds (short : Nat → Prop) : CallEvent → CallEvent → Prop
  | .entered depth _, next => short depth → ∃ own, next = .left depth own
  | .left depth own, next => ∃ outer seen, depth = outer + 1 ∧ next = .returned outer own seen
  | _, _ => True

variable {depth : Nat} {own : Arguments} {rounds : List (CallResult × List CallEvent)}

theorem countP_trips {test : CallEvent → Bool} {each : Nat}
    (same : ∀ round ∈ rounds, round.2.countP test = each)
    (silent : ∀ result, test (.returned depth result own) = false) :
    (trips depth own rounds).countP test = rounds.length * each := by
  induction rounds with
  | nil => simp [trips]
  | cons round rest ih =>
      obtain ⟨first, others⟩ := List.forall_mem_cons.1 same
      calc
        (trips depth own (round :: rest)).countP test =
            round.2.countP test + (trips depth own rest).countP test := by
          simp [trips, silent]
        _ = each + rest.length * each := by rw [first, ih others]
        _ = (round :: rest).length * each := by rw [List.length_cons, Nat.succ_mul, Nat.add_comm]

/-- What is counted in an invocation: its entry, and the same in each round. -/
theorem countP_invocation {test : CallEvent → Bool} {each : Nat} {arguments : Arguments}
    {result : CallResult} (same : ∀ round ∈ rounds, round.2.countP test = each)
    (returned : ∀ result, test (.returned depth result own) = false)
    (left : test (.left depth result) = false) :
    (.entered depth arguments :: (trips depth own rounds ++ [.left depth result])).countP test =
      (test (.entered depth arguments)).toNat + rounds.length * each := by
  rw [List.countP_cons, List.countP_append, countP_trips same returned, List.countP_singleton, left]
  cases test (.entered depth arguments) with
  | true => simp [Nat.add_comm]
  | false => simp

theorem isChain_trips (own : Arguments) {short : Nat → Prop} {behind : List CallEvent}
    (each : ∀ round ∈ rounds, ∀ behind,
      (.left (depth + 1) round.1 :: behind).IsChain (Succeeds short) →
        (round.2 ++ behind).IsChain (Succeeds short))
    (ends : behind.IsChain (Succeeds short)) :
    (trips depth own rounds ++ behind).IsChain (Succeeds short) := by
  induction rounds with
  | nil => exact ends
  | cons round rest ih =>
      obtain ⟨first, others⟩ := List.forall_mem_cons.1 each
      have back : (.returned depth round.1 own :: (trips depth own rest ++ behind)).IsChain
          (Succeeds short) := List.isChain_cons.2 ⟨fun _ _ => trivial, ih others⟩
      have leaving : Succeeds short (.left (depth + 1) round.1) (.returned depth round.1 own) :=
        ⟨depth, own, rfl, rfl⟩
      have joined := first _ (List.isChain_cons_cons.2 ⟨leaving, back⟩)
      simpa [trips] using joined

end CallEvent

namespace InterceptorChain.AsPlanned

variable {names : List String} {plan : Plan} {plans : List Plan} {depth : Nat}
  {arguments : Arguments} {result : CallResult} {log : List CallEvent}

theorem fits (planned : AsPlanned names plans depth arguments result log) {event : CallEvent}
    (held : event ∈ log) : event.Fits names plans depth arguments := by
  induction plans generalizing depth arguments result log with
  | nil =>
      cases planned
      cases List.mem_singleton.1 held
      rfl
  | cons plan plans ih =>
      obtain ⟨rounds, -, inside, rfl⟩ := planned
      simp only [List.mem_cons, List.mem_append, CallEvent.trips, List.mem_flatMap, List.not_mem_nil,
        or_false] at held
      obtain rfl | ⟨round, among, held | rfl⟩ | rfl := held
      · exact ⟨0, rfl, rfl⟩
      · exact (ih (inside round among) held).outward
      · exact ⟨0, rfl, rfl⟩
      · trivial

theorem no_entered (planned : AsPlanned names plans (depth + 1) arguments result log) :
    log.countP (CallEvent.isEntered depth) = 0 := by
  refine List.countP_eq_zero.2 fun event held => ?_
  have fits := planned.fits held
  cases event with
  | entered place received =>
      obtain ⟨i, rfl, -⟩ := fits
      have deeper : depth + 1 + i ≠ depth := by omega
      simpa [CallEvent.isEntered] using deeper
  | returned place result seen => exact Bool.false_ne_true
  | left place result => exact Bool.false_ne_true
  | called received => exact Bool.false_ne_true

theorem count_entered (planned : AsPlanned names plans depth arguments result log) {i : Nat}
    (bound : i < plans.length) :
    log.countP (CallEvent.isEntered (depth + i)) = ((plans.take i).map Plan.proceeds).prod := by
  induction plans generalizing depth arguments result log i with
  | nil => cases bound
  | cons plan plans ih =>
      obtain ⟨rounds, count, inside, rfl⟩ := planned
      cases i with
      | zero =>
          have deeper : ∀ round ∈ rounds, round.2.countP (CallEvent.isEntered depth) = 0 :=
            fun round among => (inside round among).no_entered
          rw [Nat.add_zero, CallEvent.countP_invocation deeper (fun _ => rfl) rfl]
          simp [CallEvent.isEntered]
      | succ i =>
          have same : ∀ round ∈ rounds, round.2.countP (CallEvent.isEntered (depth + (i + 1))) =
              ((plans.take i).map Plan.proceeds).prod := by
            intro round among
            rw [show depth + (i + 1) = depth + 1 + i by omega]
            exact ih (inside round among) (Nat.lt_of_succ_lt_succ bound)
          rw [CallEvent.countP_invocation same (fun _ => rfl) rfl, count]
          simp [CallEvent.isEntered]

theorem count_called (planned : AsPlanned names plans depth arguments result log) :
    log.countP CallEvent.isCalled = (plans.map Plan.proceeds).prod := by
  induction plans generalizing depth arguments result log with
  | nil =>
      cases planned
      rfl
  | cons plan plans ih =>
      obtain ⟨rounds, count, inside, rfl⟩ := planned
      rw [CallEvent.countP_invocation (fun round among => ih (inside round among)) (fun _ => rfl)
        rfl, count]
      simp [CallEvent.isCalled]

theorem succeeds {short : Nat → Prop}
    (planned : AsPlanned names plans depth arguments result log)
    (idle : ∀ i plan, short (depth + i) → plans[i]? = some plan → plan.proceeds = 0)
    {behind : List CallEvent}
    (ends : (.left depth result :: behind).IsChain (CallEvent.Succeeds short)) :
    (log ++ behind).IsChain (CallEvent.Succeeds short) := by
  -- Behind a round stands its return to the interceptor around it, behind the last round the end.
  induction plans generalizing depth arguments result log behind with
  | nil =>
      cases planned
      exact List.isChain_cons.2 ⟨fun _ _ => trivial, (List.isChain_cons.1 ends).2⟩
  | cons plan plans ih =>
      obtain ⟨rounds, count, inside, rfl⟩ := planned
      have deeper : ∀ i plan, short (depth + 1 + i) → plans[i]? = some plan →
          plan.proceeds = 0 := by
        intro i plan stops held
        rw [show depth + 1 + i = depth + (i + 1) by omega] at stops
        exact idle (i + 1) plan stops held
      have turns := CallEvent.isChain_trips (plan.change names arguments)
        (fun round among _ ends => ih (inside round among) deeper ends) ends
      have entering : ∀ next ∈ (CallEvent.trips depth (plan.change names arguments) rounds ++
          .left depth result :: behind).head?,
          CallEvent.Succeeds short (.entered depth arguments) next := by
        intro next follows stops
        have empty : rounds = [] :=
          List.eq_nil_of_length_eq_zero (count.trans (idle 0 plan stops rfl))
        subst empty
        cases follows
        exact ⟨result, rfl⟩
      have joined := List.isChain_cons.2 ⟨entering, turns⟩
      simpa using joined

theorem getLast_eq (planned : AsPlanned names (plan :: plans) depth arguments result log) :
    log.getLast? = some (.left depth result) := by
  obtain ⟨rounds, -, -, rfl⟩ := planned
  rw [← List.cons_append]
  exact List.getLast?_concat

/-- An interceptor that lets nothing proceed is left as soon as it is entered, and what it ends with
is the result of the execution or comes back to the interceptor around it. -/
theorem ends_at_once (planned : AsPlanned names plans 0 arguments result log) {i : Nat}
    (held : plans[i]? = some plan) (idle : plan.proceeds = 0) {before rest : List CallEvent}
    {received : Arguments} (split : log = before ++ .entered i received :: rest) :
    (i = 0 ∧ rest = [.left 0 result]) ∨
      ∃ own outer seen later, i = outer + 1 ∧
        rest = .left i own :: .returned outer own seen :: later := by
  have chained : (log ++ []).IsChain (CallEvent.Succeeds (· = i)) := by
    refine planned.succeeds ?_ (List.isChain_singleton _)
    rintro j other at_i stands
    rw [Nat.zero_add] at at_i
    cases at_i
    cases held.symm.trans stands
    exact idle
  have final : log.getLast? = some (.left 0 result) := by
    cases plans with
    | nil => cases held
    | cons first others => exact planned.getLast_eq
  rw [List.append_nil, split, List.isChain_split] at chained
  rw [split] at final
  cases rest with
  | nil => simp at final
  | cons next rest =>
      obtain ⟨own, rfl⟩ := (List.isChain_cons_cons.1 chained.2).1 rfl
      cases rest with
      | nil =>
          simp only [List.getLast?_append, List.getLast?_cons_cons, List.getLast?_singleton,
            Option.some_or, Option.some.injEq, CallEvent.left.injEq] at final
          obtain ⟨rfl, rfl⟩ := final
          exact .inl ⟨rfl, rfl⟩
      | cons after later =>
          have behind := (List.isChain_cons_cons.1 chained.2).2
          obtain ⟨outer, seen, rfl, rfl⟩ := (List.isChain_cons_cons.1 behind).1
          exact .inr ⟨own, outer, seen, later, rfl, rfl⟩

end InterceptorChain.AsPlanned

namespace InterceptorChain

variable {World State : Type}

theorem execute_as_planned (part : Part World State) (chain : InterceptorChain State)
    (terminal : Arguments → Process World CallResult) (names : List String) (plans : List Plan)
    (arguments : Arguments) (world : World) (sized : plans.length = chain.interceptors.length)
    (follow : Follow part terminal chain.method names chain.interceptors plans arguments world) :
    (∀ after, chain.execute part terminal names arguments world = (none, after) →
      ∃ last, terminal (Plan.changeAll names plans arguments) last = (none, after)) ∧
    ∀ result after, chain.execute part terminal names arguments world = (some result, after) →
      ∃ log,
        chain.recording.execute part.recorded (recordingTerminal terminal) names arguments
          (world, []) = (some result, after, log) ∧
        (∀ i < chain.interceptors.length,
          log.countP (CallEvent.isEntered i) = ((plans.take i).map Plan.proceeds).prod) ∧
        log.countP CallEvent.isCalled = (plans.map Plan.proceeds).prod ∧
        (∀ received, .called received ∈ log → received = Plan.changeAll names plans arguments) ∧
        (∀ i result seen, .returned i result seen ∈ log →
          seen = Plan.changeAll names (plans.take (i + 1)) arguments) ∧
        ∀ i plan, plans[i]? = some plan → plan.proceeds = 0 →
          ∀ before received rest, log = before ++ .entered i received :: rest →
            (i = 0 ∧ rest = [.left 0 result]) ∨
              ∃ own outer seen later, i = outer + 1 ∧
                rest = .left i own :: .returned outer own seen :: later := by
  constructor
  · intro after abandoned
    exact follow.intercept_abandoned abandoned
  · intro result after run
    have recorded := execute_recording part chain terminal names arguments world []
    rw [run] at recorded
    obtain ⟨same, place⟩ := Prod.mk.inj recorded
    have noted : chain.recording.execute part.recorded (recordingTerminal terminal) names arguments
        (world, []) = (some result, after, _) := Prod.ext same (Prod.ext place rfl)
    obtain ⟨log, events, planned⟩ := follow.intercept_recording 0 noted
    rw [List.nil_append] at events
    refine ⟨_, noted, ?_⟩
    dsimp only at events
    rw [events]
    refine ⟨?_, planned.count_called, fun _ => planned.fits, ?_, ?_⟩
    · intro i bound
      have count := planned.count_entered (sized ▸ bound)
      rw [Nat.zero_add] at count
      exact count
    · intro i answer seen held
      obtain ⟨j, rfl, fits⟩ := planned.fits held
      rw [Nat.zero_add]
      exact fits
    · intro i plan held idle before received rest split
      exact planned.ends_at_once held idle split

/-- Names a guest, and makes a call that fails a second time. -/
def insisting : Interceptor Nat where
  name := "InsistingInterceptor"
  advice := .setNamed "user" (.text "guest") fun _ => .proceed fun result =>
    match result with
    | .ok value => .finish (.ok value)
    | .error _ => .proceed .finish

/-- Makes every call twice, with another first argument. A tenth one it sets in vain. -/
def doubling : Interceptor Nat where
  name := "DoublingInterceptor"
  advice := .setArgument 0 (.int 7) fun _ => .setArgument 9 .null fun _ => .proceed fun _ =>
    .proceed .finish

/-- A terminal that counts its calls, and is busy for the first two. -/
def busyTwice : Arguments → Process Nat CallResult := fun _ calls =>
  (some (if calls < 2 then .error (.plain "busy") else .ok (.text "done")), calls + 1)

/-- The interceptor outside insists because both calls that the other one makes first fail. -/
theorem insisting_doubles :
    let plans : List Plan :=
      [⟨[.ofName "user" (.text "guest")], 2⟩, ⟨[.atIndex 0 (.int 7), .atIndex 9 .null], 2⟩]
    let chain : InterceptorChain Nat := ⟨⟨⟨"Users"⟩, "show"⟩, [insisting, doubling]⟩
    plans.length = chain.interceptors.length ∧
    Follow (Part.whole Nat) busyTwice chain.method ["id", "user"] chain.interceptors plans
      ⟨[.int 1, .null]⟩ 0 ∧
    ∃ log,
      chain.recording.execute (Part.whole Nat).recorded (recordingTerminal busyTwice) ["id", "user"]
        ⟨[.int 1, .null]⟩ (0, []) = (some (.ok (.text "done")), 4, log) ∧
      log.countP (CallEvent.isEntered 1) = 2 ∧ log.countP CallEvent.isCalled = 4 ∧
      ∀ received, .called received ∈ log → received = ⟨[.int 7, .text "guest"]⟩ := by
  intro plans chain
  have doubles : ∀ arguments calls, Follow (Part.whole Nat) busyTwice chain.method ["id", "user"]
      [doubling] [⟨[.atIndex 0 (.int 7), .atIndex 9 .null], 2⟩] arguments calls :=
    fun _ _ => ⟨_, .inr rfl, _, .inr rfl, rfl, trivial, 1, rfl, fun _ _ _ =>
      ⟨rfl, trivial, 0, rfl, fun _ _ _ => rfl⟩⟩
  have follow : Follow (Part.whole Nat) busyTwice chain.method ["id", "user"] chain.interceptors
      plans ⟨[.int 1, .null]⟩ 0 := by
    refine ⟨_, .inr rfl, rfl, doubles _ _, 1, rfl, fun result after busy => ?_⟩
    cases busy
    exact ⟨rfl, doubles _ _, 0, rfl, fun _ _ _ => rfl⟩
  obtain ⟨log, recorded, entered, called, received, -⟩ :=
    (execute_as_planned (Part.whole Nat) chain busyTwice ["id", "user"] plans ⟨[.int 1, .null]⟩ 0
      rfl follow).2 _ _ rfl
  exact ⟨rfl, follow, log, recorded, entered 1 (by decide), called, received⟩

end InterceptorChain
end RequestDispatch
