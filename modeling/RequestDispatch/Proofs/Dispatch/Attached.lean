import RequestDispatch.Proofs.Dispatch.Arguments

/-!
Where nested paths go. A context remembers the dispatcher that was put to work in it first, for good
(`Dispatched.attached`), and the code of every later dispatch has its nested paths served there as
well, on whatever level it is at work. The main statement is `nested_paths_go_to_first`.
-/

namespace RequestDispatch

variable {State : Type}

/-- What becomes of a context when these dispatchers dispatch it in turn, and when other things are
done with it in between that do not attach a dispatcher. -/
inductive Dispatched (start : DispatchContext State) :
    List (Dispatcher State) → DispatchContext State → Prop
  | start : Dispatched start [] start
  | dispatch {dispatchers : List (Dispatcher State)} {context : DispatchContext State}
      (dispatcher : Dispatcher State) :
      Dispatched start dispatchers context →
        Dispatched start (dispatchers ++ [dispatcher]) (dispatcher.dispatch context).2
  | other {dispatchers : List (Dispatcher State)} {context after : DispatchContext State} :
      Dispatched start dispatchers context → after.attached = context.attached →
        Dispatched start dispatchers after

theorem Dispatched.attached {start context : DispatchContext State}
    {dispatchers : List (Dispatcher State)} (dispatched : Dispatched start dispatchers context) :
    context.attached = start.attached.or dispatchers.head? := by
  induction dispatched with
  | start => exact (Option.or_none).symm
  | @dispatch dispatchers context dispatcher _ ih =>
      have after := congrArg Frame.attached (dispatcher.dispatch_frame context)
      change (dispatcher.dispatch context).2.attached = _ at after
      rw [after, List.head?_append, ← Option.or_assoc, ← ih]
      rfl
  | other _ same ih => exact same.trans ih

namespace Level

/-- The levels of a dispatch: the one that it begins with, and those of the paths that code of
another level nests. -/
inductive Within (dispatcher : Dispatcher State) (context : DispatchContext State) :
    Level State → Prop
  | outermost {level : Level State} : level.BeginsDispatch context →
      level.dispatcher = dispatcher → Within dispatcher context level
  | nested {outer inner : Level State} : Within dispatcher context outer →
      outer.AtWork inner.start → inner.start.attached = some inner.dispatcher →
        outer.limit = inner.limit + 1 → Within dispatcher context inner

theorem AtWork.attached {level : Level State} {now : DispatchContext State}
    (atWork : level.AtWork now) : now.attached = level.start.attached :=
  congrArg Frame.attached atWork.frame

/-- All levels of a dispatch have the same dispatcher attached. -/
theorem Within.attached {dispatcher : Dispatcher State} {context : DispatchContext State}
    {level : Level State} (within : level.Within dispatcher context) :
    level.start.attached = some (context.attached.getD dispatcher) := by
  induction within with
  | outermost begins own =>
      rw [begins.start, own]
      cases context.attached <;> rfl
  | nested _ atWork _ _ ih => exact atWork.attached.trans ih

end Level

/-- A context in which nothing was dispatched at the start. After any dispatches, a path that is
nested in it from outside of a dispatch is refused if there was none, and goes to the dispatcher of
the first one if there was. During one more dispatch, the paths that code of any of its levels nests
go to this first dispatcher too, which is its own only if it is itself the first or the same. -/
theorem nested_paths_go_to_first {start context : DispatchContext State}
    {dispatchers : List (Dispatcher State)} (fresh : start.attached = none)
    (dispatched : Dispatched start dispatchers context) :
    (∀ limit path, Dispatcher.nestedWithin limit path context =
      match dispatchers.head? with
      | none => (some (.error (.configuration .includeOutsideDispatch)), context)
      | some first => Dispatcher.runWithin limit first path context) ∧
    ∀ (dispatcher : Dispatcher State) (level : Level State), level.Within dispatcher context →
      ∀ now, level.AtWork now → ∀ path, level.nested path now =
        Dispatcher.runWithin level.limit (dispatchers.headD dispatcher) path now := by
  have attached := dispatched.attached
  rw [fresh, Option.none_or] at attached
  constructor
  · intro limit path
    rw [Dispatcher.nestedWithin, attached]
    cases dispatchers.head? <;> rfl
  · intro dispatcher level within now atWork path
    have first : now.attached = some (dispatchers.headD dispatcher) := by
      rw [atWork.attached, within.attached, attached, List.headD_eq_head?_getD]
    rw [Level.nested, Dispatcher.nestedWithin, first]

/-! The two pages once more. Another dispatcher, which has no page, was asked before theirs. -/

namespace TwoPages

def idle : Dispatcher Unit := { dispatcher with pathPrefix := "/idle", handlers := [] }

def fresh : DispatchContext Unit := { start with attached := none }

def afterIdle : DispatchContext Unit := { start with attached := some idle }

theorem idle_refuses :
    idle.dispatch fresh = (some (.error (.notFound "GET" "/outer/1")), afterIdle) := rfl

def laterLevel : Level Unit := { level with start := afterIdle }

def laterEntry : laterLevel.Entry :=
  { arguments := ⟨[]⟩, fetched := _, fetches := rfl, chain := ⟨⟨⟨"Pages"⟩, "outer"⟩, []⟩
    linked := _, links := rfl }

end TwoPages

open TwoPages in
/-- The outer page does not find the inner one, for the dispatcher that was asked first has none. -/
theorem inner_page_sought_elsewhere :
    Dispatched fresh [idle] afterIdle ∧ laterLevel.Within dispatcher afterIdle ∧
      ∃ now, laterLevel.AtWork now ∧
        (dispatcher.select now.exchange.request "/inner/2").isSome = true ∧
        laterLevel.nested "/inner/2" now = (some (.error (.notFound "GET" "/inner/2")), now) := by
  have dispatched : Dispatched fresh [idle] afterIdle := .dispatch idle .start
  have within : laterLevel.Within dispatcher afterIdle := .outermost ⟨rfl, by decide, rfl⟩ rfl
  have atWork : laterLevel.AtWork laterEntry.linked := .handler laterEntry ⟨rfl, rfl⟩ .refl
  have nested := (nested_paths_go_to_first rfl dispatched).2 dispatcher laterLevel within _ atWork
  refine ⟨dispatched, within, _, atWork, ?_, (nested "/inner/2").trans rfl⟩
  rw [show laterEntry.linked.exchange.request = start.exchange.request from rfl, selects_inner]
  rfl

end RequestDispatch
