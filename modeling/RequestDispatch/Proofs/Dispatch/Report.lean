import RequestDispatch.Proofs.Dispatch.Scope

/-!
What a client learns of a failure. Whatever a handler had written is dropped, and the report that
takes its place is made of the failure and the path alone. Failures of the server all make one
report unless details are shown.
-/

namespace RequestDispatch

variable {State : Type}

namespace DispatchError

theorem status_of_server (failure : DispatchError) (server : 500 ≤ failure.status) :
    failure.status = 500 := by
  cases failure <;> simp_all [status]

theorem details_of_server (failure : DispatchError) (server : 500 ≤ failure.status) :
    failure.details = none := by
  cases failure <;> simp_all [status, details]

end DispatchError

namespace ErrorResponse

/-- The response that consists of a report. -/
def sink (report : ErrorResponse) : ResponseSink :=
  { status := report.statusCode
    headers := ⟨[("content-type", Text.utf8Bytes "application/json")]⟩
    body := report.body, committed := true }

theorem of_failure_timestamp (timestamp moment : String) (failure : DispatchError) (path : String)
    (expose : Bool) :
    { ofFailure timestamp failure path expose with timestamp := moment } =
      ofFailure moment failure path expose := rfl

theorem of_server_failure (timestamp path : String) {failure : DispatchError}
    (server : 500 ≤ failure.status) :
    ofFailure timestamp failure path false =
      plain timestamp 500 "Internal Server Error" "Internal Server Error" path := by
  unfold ofFailure plain
  rw [failure.details_of_server server, failure.status_of_server server]
  rfl

end ErrorResponse

namespace Dispatcher

theorem fresh_content_type (status : Nat) :
    (ResponseSink.fresh.setStatus status).defaultContentType "application/json" =
      { status := status, headers := ⟨[("content-type", Text.utf8Bytes "application/json")]⟩
        body := [], committed := true } := by
  have value : headerValue? "application/json" = some (Text.utf8Bytes "application/json") := by
    decide +kernel
  have missing : Headers.empty.contains "content-type" = false := by decide +kernel
  unfold ResponseSink.defaultContentType
  rw [value]
  change (if Headers.empty.contains "content-type" then _ else _) = _
  rw [missing]
  rfl

theorem report_failure_sink (timestamp : String) (expose : Bool) (failure : DispatchError)
    (exchange : Exchange State) :
    (reportFailure timestamp expose failure exchange).sink =
      (ErrorResponse.ofFailure timestamp failure exchange.request.path expose).sink := by
  unfold reportFailure Exchange.respond
  dsimp only
  rw [ResponseSink.reset_eq_fresh, fresh_content_type]
  rfl

theorem dispatch_request (dispatcher : Dispatcher State) (context : DispatchContext State) :
    (dispatcher.dispatch context).2.exchange.request = context.exchange.request :=
  congrArg Frame.request (dispatcher.dispatch_frame context)

/-- The response to a failure is its report, whatever stood in its place before. -/
theorem service_of_failure {dispatcher : Dispatcher State} {context : DispatchContext State}
    {failure : DispatchError} (fails : (dispatcher.dispatch context).1 = some (.error failure))
    (timestamp : String) :
    (dispatcher.service timestamp context).1 = some () ∧
      (dispatcher.service timestamp context).2.exchange.sink =
        (ErrorResponse.ofFailure timestamp failure context.exchange.request.path
          dispatcher.errorDetails).sink := by
  have kept := dispatcher.dispatch_request context
  unfold service Process.andThen
  cases run : dispatcher.dispatch context with
  | mk result after =>
      rw [run] at fails kept
      cases fails
      rw [← kept]
      constructor
      · rfl
      · exact report_failure_sink timestamp dispatcher.errorDetails failure after.exchange

end Dispatcher

/-- Two requests for one path that end in failures. The response is the report of the failure, and
its only header is the content type. If the failures are the same, or both are the server's and no
details are shown, then the two responses differ in their timestamps alone. -/
theorem failure_responses_agree {dispatcher : Dispatcher State}
    {first second : DispatchContext State} {failure other : DispatchError}
    (samePath : second.exchange.request.path = first.exchange.request.path)
    (fails : (dispatcher.dispatch first).1 = some (.error failure))
    (failsToo : (dispatcher.dispatch second).1 = some (.error other))
    (timestamp moment : String) :
    let report := ErrorResponse.ofFailure timestamp failure first.exchange.request.path
      dispatcher.errorDetails
    (dispatcher.service timestamp first).1 = some () ∧
      (dispatcher.service timestamp first).2.exchange.sink =
        { status := report.statusCode
          headers := ⟨[("content-type", Text.utf8Bytes "application/json")]⟩
          body := report.body, committed := true } ∧
      (failure = other ∨
          dispatcher.errorDetails = false ∧ 500 ≤ failure.status ∧ 500 ≤ other.status →
        (dispatcher.service moment second).2.exchange.sink =
          { report with timestamp := moment }.sink) := by
  intro report
  obtain ⟨answered, sink⟩ := Dispatcher.service_of_failure fails timestamp
  obtain ⟨-, sinkToo⟩ := Dispatcher.service_of_failure failsToo moment
  refine ⟨answered, sink, ?_⟩
  intro alike
  rw [sinkToo, samePath, ErrorResponse.of_failure_timestamp]
  rcases alike with same | ⟨hidden, server, serverToo⟩
  · rw [same]
  · rw [hidden, ErrorResponse.of_server_failure moment _ server,
      ErrorResponse.of_server_failure moment _ serverToo]

/-! A page that fails in one of two ways, each time after it has written something else. -/

namespace FailingPage

def body : HandlerBody Bool := fun _ =>
  .look fun exchange =>
    match exchange.state with
    | true => .act (.write [1, 2]) fun _ => .finish (.error (.plain "disk full"))
    | false => .act (.setStatus 202) fun _ => .finish (.error (.custom ⟨"Overdue"⟩ "late" none))

def page : Invocation Bool :=
  { method := ⟨⟨"Pages"⟩, "fail"⟩
    mapping := ⟨[⟨"/fail", "/fail".toList, []⟩], [], [], [], [], []⟩, fetchers := []
    argumentNames := [], outcomes := [.write], defaultView := none, target := ⟨"Pages"⟩
    body := body }

def dispatcher : Dispatcher Bool :=
  { place := 0, pathPrefix := "", handlers := [⟨⟨"Pages"⟩, [page]⟩], registry := []
    chains := ⟨.empty, .standard⟩, exceptionHandlers := [], views := none, errorDetails := false
    nestingLimit := 0, initial := ⟨.standard .standard, .empty, []⟩ }

def context (full : Bool) : DispatchContext Bool :=
  { exchange :=
      { Exchange.start ⟨⟨"/fail", []⟩, "GET", .empty, []⟩ full with
        sink := ⟨301, ⟨[("x-host", [100, 98])]⟩, [], true⟩ }
    attached := none, memories := [] }

theorem fails_full : (dispatcher.dispatch (context true)).1 =
    some (.error (.handler (.plain "disk full"))) := rfl

theorem fails_late : (dispatcher.dispatch (context false)).1 =
    some (.error (.handler (.custom ⟨"Overdue"⟩ "late" none))) := rfl

end FailingPage

/-- A client cannot tell that the disk is full from that the page is overdue. -/
theorem disk_full_like_overdue :
    (FailingPage.dispatcher.service "now" (FailingPage.context false)).2.exchange.sink =
      (FailingPage.dispatcher.service "now" (FailingPage.context true)).2.exchange.sink := by
  have samePath : (FailingPage.context false).exchange.request.path =
      (FailingPage.context true).exchange.request.path := rfl
  obtain ⟨-, sink, agree⟩ :=
    failure_responses_agree samePath FailingPage.fails_full FailingPage.fails_late "now" "now"
  have hidden := agree (.inr ⟨rfl, by decide, by decide⟩)
  exact hidden.trans sink.symm

end RequestDispatch
