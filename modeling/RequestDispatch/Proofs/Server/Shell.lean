import RequestDispatch.Server.Shell

/-!
What the shell of a server adds to its dispatchers. A request reaches them with one identifier, and
its response leaves with the same one. Between the two the response is what the dispatchers have
written, unless they were abandoned or not asked at all (`shell_refines_router`).
-/

namespace RequestDispatch

variable {State : Type}

namespace Headers

/-- Fields that have one value for a name, and all other names as before. -/
structure Sets (before : Headers) (name : String) (value : List UInt8) (after : Headers) :
    Prop where
  alone : after.fields.filter (fun field => field.1 == name) = [(name, value)]
  others : after.fields.filter (fun field => field.1 != name) =
    before.fields.filter fun field => field.1 != name

theorem insert_sets (headers : Headers) (name : String) (value : List UInt8) :
    headers.Sets name value (headers.insert name value) where
  alone := by
    have removed : (headers.fields.filter fun field => field.1 != name).filter
        (fun field => field.1 == name) = [] := by
      rw [List.filter_filter, List.filter_eq_nil_iff]
      intro field _
      simp
    simp [insert, List.filter_append, removed]
  others := by
    simp [insert, List.filter_append, List.filter_filter]

theorem Sets.values_same {before after : Headers} {name spelling : String} {value : List UInt8}
    (sets : before.Sets name value after) (same : normalizeHeaderName? spelling = some name) :
    after.values spelling = [value] := by
  unfold values
  rw [same]
  dsimp only
  rw [sets.alone]
  rfl

theorem Sets.values_other {before after : Headers} {name spelling : String} {value : List UInt8}
    (sets : before.Sets name value after) (other : normalizeHeaderName? spelling ≠ some name) :
    after.values spelling = before.values spelling := by
  unfold values
  cases found : normalizeHeaderName? spelling with
  | none => rfl
  | some key =>
      have differs : key ≠ name := by
        rintro rfl
        exact other found
      -- the fields of another name all stand among those that were left as they are
      have within : ∀ headers : Headers, headers.fields.filter (fun field => field.1 == key) =
          (headers.fields.filter fun field => field.1 != name).filter
            fun field => field.1 == key := by
        intro headers
        rw [List.filter_filter]
        apply List.filter_congr
        intro field _
        by_cases named : field.1 = key
        · simp [named, differs]
        · simp [named]
      dsimp only
      rw [within after, sets.others, ← within before]

end Headers

/-- The request with an identifier in place of all that it bears. -/
def Request.identified (request : Request) (id : List UInt8) : Request :=
  { request with headers := request.headers.insert requestIdHeader id }

namespace Response

/-- A response gives what a sink holds, and an identifier besides. -/
structure Conveys (response : Response) (sink : ResponseSink) (id : List UInt8) : Prop where
  status : response.status = sink.status
  body : response.body = sink.body
  headers : sink.headers.Sets requestIdHeader id response.headers

structure Reports (response : Response) (timestamp : String) (code : Nat)
    (reason message path : String) (id : List UInt8) : Prop where
  status : response.status = code
  body : response.body = Text.utf8Bytes (Json.object [("timestamp", .text timestamp),
    ("status", .int code), ("error", .text reason), ("message", .text message),
    ("path", .text path)]).compact
  headers : response.headers.fields =
    [("content-type", Text.utf8Bytes "application/json"), (requestIdHeader, id)]

theorem of_sink_conveys (sink : ResponseSink) (id : List UInt8) :
    ((ofSink sink).withHeader requestIdHeader id).Conveys sink id where
  status := rfl
  body := rfl
  headers := sink.headers.insert_sets requestIdHeader id

theorem of_error_reports (timestamp : String) {code : Nat} (low : 100 ≤ code) (high : code < 1000)
    (reason message path : String) (id : List UInt8) :
    ((ofError (.plain timestamp code reason message path)).withHeader requestIdHeader id).Reports
      timestamp code reason message path id where
  status := by
    change (if 100 ≤ code && code < 1000 then code else 500) = code
    simp [low, high]
  body := by
    have json : (ErrorResponse.plain timestamp code reason message path).toJson =
        .object [("timestamp", .text timestamp), ("status", .int code), ("error", .text reason),
          ("message", .text message), ("path", .text path)] := rfl
    rw [← json]
    rfl
  headers := by
    have apart : ("content-type" != requestIdHeader) = true := by decide
    simp [withHeader, ofError, Headers.insert, Headers.empty, apart]

end Response

namespace Server

theorem request_id_of_first {request : Request} {first : List UInt8} {others : List (List UInt8)}
    (bears : request.headers.values requestIdHeader = first :: others) (freshId : List UInt8) :
    requestId freshId request = first := by
  rw [requestId, bears]
  rfl

theorem request_id_of_none {request : Request}
    (bears : request.headers.values requestIdHeader = []) (freshId : List UInt8) :
    requestId freshId request = freshId := by
  rw [requestId, bears]
  rfl

section Closed

variable {server : Server State} (closed : server.properties.allowsOtherOrigins = false)
  (timestamp : String) (freshId : List UInt8) (request : Request) (host : Host State)

include closed

/-- Where no other origins are allowed, a server only puts the identifier into the request and into
the response. -/
theorem respond_closed :
    server.respond timestamp freshId request host =
      identify freshId (server.serve timestamp) request host := by
  unfold respond
  rw [closed]
  rfl

theorem respond_long {id : List UInt8} (identified : requestId freshId request = id)
    (long : server.properties.maxBodySize < request.body.length) :
    server.respond timestamp freshId request host =
      ((server.refusal timestamp request).withHeader requestIdHeader id, host) := by
  have refused : server.serve timestamp (request.identified id) host =
      (server.refusal timestamp request, host) := if_pos long
  rw [respond_closed closed, identify, identified]
  change ((server.serve timestamp (request.identified id) host).1.withHeader requestIdHeader id,
    (server.serve timestamp (request.identified id) host).2) = _
  rw [refused]

theorem respond_short {id : List UInt8} (identified : requestId freshId request = id)
    (short : request.body.length ≤ server.properties.maxBodySize) :
    let call := host.run (server.router.service timestamp)
      (.start (request.identified id) host.state)
    server.respond timestamp freshId request host =
      ((if call.1.1.isSome then Response.ofSink call.1.2.sink
        else apology timestamp request).withHeader requestIdHeader id, call.2) := by
  intro call
  have served : server.serve timestamp (request.identified id) host =
      (if call.1.1.isSome then .ofSink call.1.2.sink else apology timestamp request, call.2) :=
    if_neg (Nat.not_lt.2 short)
  rw [respond_closed closed, identify, identified]
  change ((server.serve timestamp (request.identified id) host).1.withHeader requestIdHeader id,
    (server.serve timestamp (request.identified id) host).2) = _
  rw [served]

end Closed

end Server

/-- A server that allows no other origins, a request, and what the host keeps. The identifier is the
first that the request bears, or else the fresh one. The router is called with the request that
bears this identifier alone. What it leaves in the response and in the host is what the server
answers and keeps, with the identifier among the headers; if it was abandoned, the answer is a
report of that. A body that is too long is reported whatever the router would have done, and the
host stays as it is. -/
theorem shell_refines_router (server : Server State)
    (closed : server.properties.allowsOtherOrigins = false) (timestamp : String)
    (freshId : List UInt8) (request : Request) (host : Host State) :
    ∃ id,
      (∀ first others, request.headers.values requestIdHeader = first :: others → id = first) ∧
      (request.headers.values requestIdHeader = [] → id = freshId) ∧
      request.headers.Sets requestIdHeader id (request.identified id).headers ∧
      (request.body.length ≤ server.properties.maxBodySize →
        let call := host.run (server.router.service timestamp)
          (.start (request.identified id) host.state)
        let answer := server.respond timestamp freshId request host
        answer.2 = call.2 ∧
          (call.1.1 = some () → answer.1.Conveys call.1.2.sink id) ∧
          (call.1.1 = none →
            answer.1.Reports timestamp 500 "Internal Server Error" "Internal Server Error"
              request.writtenPath id)) ∧
      (server.properties.maxBodySize < request.body.length →
        ∀ router : DispatcherRouter State,
        let answer :=
          ({ server with router := router } : Server State).respond timestamp freshId request host
        answer.2 = host ∧
          answer.1.Reports timestamp 413 "Payload Too Large"
            ("Request body exceeds " ++ toString server.properties.maxBodySize ++ " bytes")
            request.writtenPath id) := by
  refine ⟨Server.requestId freshId request, ?_, ?_, ?_, ?_, ?_⟩
  · intro first others bears
    exact Server.request_id_of_first bears freshId
  · intro bears
    exact Server.request_id_of_none bears freshId
  · exact request.headers.insert_sets requestIdHeader _
  · intro short call answer
    have answered : answer = _ :=
      Server.respond_short closed timestamp freshId request host rfl short
    rw [answered]
    refine ⟨rfl, ?_, ?_⟩
    · intro served
      change (Response.withHeader (if call.1.1.isSome then _ else _) _ _).Conveys _ _
      rw [served]
      exact Response.of_sink_conveys _ _
    · intro abandoned
      change (Response.withHeader (if call.1.1.isSome then _ else _) _ _).Reports _ _ _ _ _ _
      rw [abandoned]
      exact Response.of_error_reports timestamp (by decide) (by decide) _ _ _ _
  · intro long router answer
    let other : Server State := { server with router := router }
    have otherClosed : other.properties.allowsOtherOrigins = false := closed
    have answered : answer = _ :=
      Server.respond_long otherClosed timestamp freshId request host rfl long
    rw [answered]
    refine ⟨rfl, ?_⟩
    exact Response.of_error_reports timestamp (by decide) (by decide) _ _ _ _

/-! A page that puts an identifier of its own into its response and gives back the one it was asked
with, and a page that is abandoned. Both keep that they were asked. -/

namespace SignedPages

def page (name : String) (body : HandlerBody Bool) : Invocation Bool :=
  { method := ⟨⟨"Pages"⟩, name⟩
    mapping := ⟨[⟨"/" ++ name, '/' :: name.toList, []⟩], [], [], [], [], []⟩
    fetchers := [], argumentNames := [], outcomes := [.write], defaultView := none
    target := ⟨"Pages"⟩, body := fun arguments => .act (.keep true) fun _ => body arguments }

def signed : HandlerBody Bool := fun _ =>
  .act (.setHeader "X-Request-Id" "mine") fun _ => .look fun exchange =>
    .finish (.ok (.text ((exchange.request.header? requestIdHeader).getD "")))

def abandoned : HandlerBody Bool := fun _ => .act (.write [1, 2]) fun _ => .abandon

def dispatcher : Dispatcher Bool :=
  { place := 0, pathPrefix := ""
    handlers := [⟨⟨"Pages"⟩, [page "signed" signed, page "abandoned" abandoned]⟩], registry := []
    chains := ⟨.empty, .standard⟩, exceptionHandlers := [], views := none, errorDetails := false
    nestingLimit := 0, initial := ⟨.standard .standard, .empty, []⟩ }

def server : Server Bool :=
  ⟨{ ServerProperties.standard with maxBodySize := 1 }, ⟨[dispatcher], false⟩⟩

def request (path : String) (body : List UInt8) : Request :=
  ⟨⟨path, []⟩, "GET", ⟨[(requestIdHeader, [97]), (requestIdHeader, [98])]⟩, body⟩

def answer (path : String) (body : List UInt8) : Response × Host Bool :=
  server.respond "now" [99] (request path body) (.start false)

end SignedPages

/-- Of two identifiers the first stays, whatever the page says of it, whether it gives a result or
not, and also if the page is not asked. -/
theorem first_identifier_stays :
    ((SignedPages.answer "/signed" [0]).1.status = 200 ∧
      (SignedPages.answer "/signed" [0]).1.body = [97] ∧
      (SignedPages.answer "/signed" [0]).1.headers.values requestIdHeader = [[97]] ∧
      (SignedPages.answer "/signed" [0]).1.headers.values "Content-Type" =
        [Text.utf8Bytes "text/plain; charset=utf-8"] ∧
      (SignedPages.answer "/signed" [0]).2.state = true) ∧
    ((SignedPages.answer "/abandoned" [0]).1.status = 500 ∧
      (SignedPages.answer "/abandoned" [0]).1.headers.fields =
        [("content-type", Text.utf8Bytes "application/json"), (requestIdHeader, [97])] ∧
      (SignedPages.answer "/abandoned" [0]).2.state = true) ∧
    ((SignedPages.answer "/signed" [0, 0]).1.status = 413 ∧
      (SignedPages.answer "/signed" [0, 0]).1.headers.fields =
        [("content-type", Text.utf8Bytes "application/json"), (requestIdHeader, [97])] ∧
      (SignedPages.answer "/signed" [0, 0]).2.state = false) := by
  refine ⟨?_, ?_, ?_⟩
  · obtain ⟨id, first, -, -, short, -⟩ := shell_refines_router SignedPages.server rfl "now" [99]
      (SignedPages.request "/signed" [0]) (.start false)
    cases first [97] [[98]] (by decide +kernel)
    obtain ⟨kept, conveys, -⟩ := short (by decide)
    have conveyed := conveys (by decide +kernel)
    refine ⟨conveyed.status.trans (by decide +kernel), conveyed.body.trans (by decide +kernel),
      conveyed.headers.values_same (by decide +kernel), ?_, ?_⟩
    · exact (conveyed.headers.values_other (by decide +kernel)).trans (by decide +kernel)
    · exact (congrArg Host.state kept).trans (by decide +kernel)
  · obtain ⟨id, first, -, -, short, -⟩ := shell_refines_router SignedPages.server rfl "now" [99]
      (SignedPages.request "/abandoned" [0]) (.start false)
    cases first [97] [[98]] (by decide +kernel)
    obtain ⟨kept, -, reports⟩ := short (by decide)
    have reported := reports (by decide +kernel)
    refine ⟨reported.status, reported.headers, ?_⟩
    exact (congrArg Host.state kept).trans (by decide +kernel)
  · obtain ⟨id, first, -, -, -, long⟩ := shell_refines_router SignedPages.server rfl "now" [99]
      (SignedPages.request "/signed" [0, 0]) (.start false)
    cases first [97] [[98]] (by decide +kernel)
    obtain ⟨kept, reported⟩ := long (by decide) SignedPages.server.router
    exact ⟨reported.status, reported.headers, congrArg Host.state kept⟩

end RequestDispatch
