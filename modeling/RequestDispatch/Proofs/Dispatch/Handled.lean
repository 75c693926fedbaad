import RequestDispatch.Proofs.Dispatch.Inclusion

/-!
Faults that an exception handler has dealt with. Such a fault is no failure of the dispatch, and
the response stays as the exception handler left it, however deep it was thrown
(`handled_fault_freezes_response`). Whether a fault counts as dealt with is decided by what it is
itself: the signal that something has been handled is not recognized as a fault of its own or as a
cause of one (`dispatch_of_signal`).
-/

namespace RequestDispatch

namespace Call

open Watched

variable {State : Type} {call : Call State}

/-- The world in which the exception handlers are asked about a fault of the call. -/
def Entry.asked (entry : call.Entry) (fault : Fault) : Watched State :=
  (consult call.level fault entry.result.2).2

/-- What the exception handlers make of a fault: whether they have dealt with it, and the world
that they leave. -/
def Entry.verdict (entry : call.Entry) (fault : Fault) : Option Bool × Watched State :=
  match call.dispatcher.exceptionHandlers.lookup fault.kind with
  | none => (some false, entry.asked fault)
  | some handler => (handler fault).run exchangePart entry.nested (entry.asked fault)

theorem Entry.run_of_passed (entry : call.Entry) {error : DispatchError} {after : Watched State}
    (handed : entry.result = (some (.error (.dispatch error)), after)) :
    call.run = (some (.error error), entry.left after) := entry.run handed

theorem Entry.run_of_own (entry : call.Entry) {fault : Fault} {after : Watched State}
    (handed : entry.result = (some (.error fault), after))
    (own : ∀ error, fault ≠ .dispatch error) :
    call.run = ((entry.verdict fault).1.map fun handled =>
      .error (if handled then .handled else .handler fault),
      entry.left (entry.verdict fault).2) := by
  have answered : call.dispatcher.answerWatched entry.nested fault (entry.asked fault) =
      ((entry.verdict fault).1.map fun handled =>
        .error (if handled then .handled else .handler fault), (entry.verdict fault).2) := by
    unfold Dispatcher.answerWatched Entry.verdict
    cases call.dispatcher.exceptionHandlers.lookup fault.kind with
    | none => rfl
    | some handler =>
        simp only [Process.andThen]
        cases (handler fault).run exchangePart entry.nested (entry.asked fault) with
        | mk result last => cases result <;> rfl
  have finished := calc
    entry.finish (.error fault) after
      = call.dispatcher.answerWatched entry.nested fault (consult call.level fault after).2 := by
        rw [Entry.finish, Dispatcher.settle_watched_own own]
        rfl
    _ = call.dispatcher.answerWatched entry.nested fault (entry.asked fault) := by
        rw [Entry.asked, handed]
    _ = _ := answered
  rw [entry.run handed, finished]

variable {dispatcher : Dispatcher State} {context : DispatchContext State} {path : String}

theorem service_of_ok {last : DispatchContext State}
    (dispatched : dispatcher.dispatch context = (some (.ok ()), last)) (timestamp : String) :
    dispatcher.service timestamp context = (some (), last) := by
  rw [Dispatcher.service, Process.andThen, dispatched]
  rfl

end Call

/-- A fault thrown on the innermost level, for whose exact kind an exception handler is registered
that deals with it: the response is in the end as that handler left it. -/
theorem handled_fault_freezes_response {State : Type} {dispatcher : Dispatcher State}
    {context : DispatchContext State} {path : String} {inner : Call State}
    {arguments : Arguments} {start thrown handled : Watched State} {fault : Fault}
    {handler : ExceptionHandler State}
    (begins : dispatcher.relativePath? context.exchange.request.path = some path)
    (descends : Relation.ReflTransGen Call.Includes (Call.outermost dispatcher context path) inner)
    (entry : inner.Entry) (returns : entry.ReturnsFaults) (enters : entry.Enters arguments start)
    (throws : entry.terminal arguments start = (some (.error fault), thrown))
    (own : ∀ error, fault ≠ .dispatch error)
    (registered : inner.dispatcher.exceptionHandlers.lookup fault.kind = some handler)
    (accepts : (handler fault).run Watched.exchangePart entry.nested (entry.asked fault) =
      (some true, handled)) :
    thrown.Undisturbed entry.result.2 ∧
      ∃ last, dispatcher.dispatch context = (some (.ok ()), last) ∧
        last.exchange.sink = handled.context.exchange.sink ∧
        ∀ timestamp, dispatcher.service timestamp context = (some (), last) := by
  obtain ⟨after, handed, undisturbed⟩ := entry.result_of_enters returns enters throws
  have verdict : entry.verdict fault = (some true, handled) := by
    rw [Call.Entry.verdict, registered]
    exact accepts
  have signals := entry.run_of_own handed own
  rw [verdict] at signals
  obtain ⟨last, run, bindings, state, same⟩ := Call.run_of_descent descends signals
  have dispatched := Call.dispatch_of_run begins run
  refine ⟨by rw [handed]; exact undisturbed, last.context, dispatched, ?_,
    Call.service_of_ok dispatched⟩
  rw [same]
  rfl

/-- An overdue page is reported two inclusions deep, and the pages around it write nothing. -/
theorem overdue_freezes_response :
    let fault : Fault := .custom ⟨"Overdue"⟩ "late" none
    let innermost : HandlerBody Unit := fun _ => .finish (.error fault)
    let answer : ExceptionHandler Unit := fun fault =>
      .act (.write (Text.utf8Bytes fault.message)) fun _ => .finish true
    let dispatcher := NestedPages.dispatcher innermost answer
    let context := NestedPages.context "/first"
    let entry := NestedPages.thirdEntry innermost answer
    dispatcher.relativePath? context.exchange.request.path = some "/first" ∧
      entry.ReturnsFaults ∧
      entry.terminal ⟨[]⟩ entry.linked = (some (.error fault), entry.linked) ∧
      (∀ error, fault ≠ .dispatch error) ∧
      dispatcher.exceptionHandlers.lookup fault.kind = some answer ∧
      ∃ handled,
        (answer fault).run Watched.exchangePart entry.nested (entry.asked fault) =
          (some true, handled) ∧ handled.context.exchange.sink.body = Text.utf8Bytes "late" ∧
        ∃ last, dispatcher.dispatch context = (some (.ok ()), last) ∧
          last.exchange.sink = handled.context.exchange.sink ∧
          ∀ timestamp, dispatcher.service timestamp context = (some (), last) := by
  intro fault innermost answer dispatcher context entry
  have begins : dispatcher.relativePath? context.exchange.request.path = some "/first" :=
    NestedPages.relative_first innermost answer
  have returns : entry.ReturnsFaults := by
    intro interceptor member
    cases member
  have throws : entry.terminal ⟨[]⟩ entry.linked = (some (.error fault), entry.linked) := rfl
  have own : ∀ error, fault ≠ .dispatch error := by simp [fault]
  have registered : dispatcher.exceptionHandlers.lookup fault.kind = some answer := rfl
  have accepts : (answer fault).run Watched.exchangePart entry.nested (entry.asked fault) =
      (some true, _) := rfl
  have frozen := handled_fault_freezes_response begins (NestedPages.descends innermost answer)
    entry returns ⟨rfl, rfl⟩ throws own registered accepts
  exact ⟨begins, returns, throws, own, registered, _, accepts, rfl, frozen.2⟩

/-- Of the failures that are passed on as faults, the signal that something has been handled is the
only one that has it among its causes. -/
theorem passed_signal_iff (error : DispatchError) :
    (Fault.dispatch error).isHandled = true ↔ error = .handled := by
  cases error with
  | interception cause => cases cause <;> simp [Fault.isHandled, Fault.isSignal, Fault.causes,
      DispatchError.causes]
  | _ => simp [Fault.isHandled, Fault.isSignal, Fault.causes, DispatchError.causes]

/-- What a dispatch makes of a fault that carries the signal that something has been handled. It
ends well if the fault is the failure of a nested path, or if the exception handlers deal with it;
otherwise the fault is a failure like any other. -/
theorem dispatch_of_signal {State : Type} {dispatcher : Dispatcher State}
    {context : DispatchContext State} {path : String} {fault : Fault} {after : Watched State}
    (begins : dispatcher.relativePath? context.exchange.request.path = some path)
    (entry : (Call.outermost dispatcher context path).Entry)
    (handed : entry.result = (some (.error fault), after)) (signal : fault.isHandled = true) :
    ((fault = .dispatch .handled ∧
        dispatcher.dispatch context = (some (.ok ()), (entry.left after).context)) ∨
      (∀ error, fault ≠ .dispatch error) ∧
        dispatcher.dispatch context = ((entry.verdict fault).1.map fun handled =>
          if handled then .ok () else .error (.handler fault),
          (entry.left (entry.verdict fault).2).context)) ∧
      ∀ timestamp last, dispatcher.dispatch context = (some (.ok ()), last) →
        dispatcher.service timestamp context = (some (), last) := by
  refine ⟨?_, fun timestamp last dispatched => Call.service_of_ok dispatched timestamp⟩
  rcases fault.passed_or_own with ⟨error, rfl⟩ | own
  · obtain rfl := (passed_signal_iff error).1 signal
    exact .inl ⟨rfl, Call.dispatch_of_run begins (entry.run_of_passed handed)⟩
  · refine .inr ⟨own, ?_⟩
    rw [Call.dispatch_of_run begins (entry.run_of_own handed own), Option.map_map]
    congr 2
    funext handled
    cases handled <;> rfl

/-- A fault caused by the signal, of a kind that an exception handler deals with. -/
theorem caused_signal_is_dealt_with :
    let fault : Fault := .custom ⟨"Overdue"⟩ "late" (some .handled)
    let innermost : HandlerBody Unit := fun _ => .finish (.error fault)
    let answer : ExceptionHandler Unit := fun _ => .finish true
    let dispatcher := NestedPages.dispatcher innermost answer
    let context := NestedPages.context "/third"
    let entry : (Call.outermost dispatcher context "/third").Entry :=
      NestedPages.aloneEntry innermost answer
    dispatcher.relativePath? context.exchange.request.path = some "/third" ∧
      entry.result = (some (.error fault), entry.linked) ∧ fault.isHandled = true ∧
      (dispatcher.dispatch context).1 = some (.ok ()) := by
  intro fault innermost answer dispatcher context entry
  have begins : dispatcher.relativePath? context.exchange.request.path = some "/third" :=
    NestedPages.relative_third innermost answer
  have handed : entry.result = (some (.error fault), entry.linked) := rfl
  have signal : fault.isHandled = true := rfl
  obtain ⟨passed | own, -⟩ := dispatch_of_signal begins entry handed signal
  · exact ⟨begins, handed, signal, congrArg Prod.fst passed.2⟩
  · have verdict : (entry.verdict fault).1 = some true := rfl
    rw [verdict] at own
    exact ⟨begins, handed, signal, congrArg Prod.fst own.2⟩

/-- A page that throws the signal itself fails, although the fault says that it has been handled. -/
theorem thrown_signal_is_failure :
    let innermost : HandlerBody Unit := fun _ => .finish (.error .handled)
    let answer : ExceptionHandler Unit := fun _ => .finish true
    let dispatcher := NestedPages.dispatcher innermost answer
    let context := NestedPages.context "/third"
    let entry : (Call.outermost dispatcher context "/third").Entry :=
      NestedPages.aloneEntry innermost answer
    entry.result = (some (.error .handled), entry.linked) ∧ Fault.handled.isHandled = true ∧
      (dispatcher.dispatch context).1 = some (.error (.handler .handled)) := by
  intro innermost answer dispatcher context entry
  have handed : entry.result = (some (.error .handled), entry.linked) := rfl
  have verdict : (entry.verdict .handled).1 = some false := rfl
  have run := entry.run_of_own handed (by simp)
  rw [verdict] at run
  have dispatched := Call.dispatch_of_run (NestedPages.relative_third innermost answer) run
  exact ⟨handed, rfl, congrArg Prod.fst dispatched⟩

end RequestDispatch
