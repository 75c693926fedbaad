import RequestDispatch.Dispatch.Host
import RequestDispatch.Dispatch.Router
import RequestDispatch.Server.Properties

/-!
The shell of a server: what happens to a request before it reaches the dispatchers and to the
response after it has left them. A body that is too long is refused before any handler runs, a
request that is abandoned is answered all the same, and every response bears the identifier of its
request.
-/

namespace RequestDispatch

structure Response where
  status : Nat
  headers : Headers
  body : List UInt8

structure Server (State : Type) where
  properties : ServerProperties
  router : DispatcherRouter State

namespace Response

def withHeader (response : Response) (name : String) (value : List UInt8) : Response :=
  { response with headers := response.headers.insert name value }

def ofSink (sink : ResponseSink) : Response := ⟨sink.status, sink.headers, sink.body⟩

def ofError (report : ErrorResponse) : Response :=
  ⟨report.statusCode, Headers.empty.insert "content-type" (Text.utf8Bytes "application/json"),
    report.body⟩

end Response

def requestIdHeader : String := "x-request-id"

def anyOf : List UInt8 := Text.utf8Bytes "*"

namespace Server

variable {State : Type}

def ofEnvironment (environment : Environment) (router : DispatcherRouter State) :
    Except SettingsProblem (Server State) :=
  (ServerProperties.ofEnvironment environment).map fun properties => ⟨properties, router⟩

/-- The identifier of a request: the one it bears, or else a fresh one. -/
def requestId (freshId : List UInt8) (request : Request) : List UInt8 :=
  (request.headers.values requestIdHeader).headD freshId

/-- The answer to a request whose body is too long. The path is named as it was written. -/
def refusal (server : Server State) (timestamp : String) (request : Request) : Response :=
  .ofError (.plain timestamp 413 "Payload Too Large"
    ("Request body exceeds " ++ toString server.properties.maxBodySize ++ " bytes")
    request.writtenPath)

def apology (timestamp : String) (request : Request) : Response :=
  .ofError (.plain timestamp 500 "Internal Server Error" "Internal Server Error"
    request.writtenPath)

def serve (server : Server State) (timestamp : String) (request : Request) (host : Host State) :
    Response × Host State :=
  if server.properties.maxBodySize < request.body.length then
    (server.refusal timestamp request, host)
  else
    let ((served, exchange), host) :=
      host.run (server.router.service timestamp) (.start request host.state)
    (if served.isSome then .ofSink exchange.sink else apology timestamp request, host)

abbrev Answering (State : Type) := Request → Host State → Response × Host State

def identify (freshId : List UInt8) (inner : Answering State) : Answering State :=
  fun request host =>
    let id := requestId freshId request
    let marked := { request with headers := request.headers.insert requestIdHeader id }
    let (response, host) := inner marked host
    (response.withHeader requestIdHeader id, host)

def permission : Response :=
  (((Response.mk 200 .empty []).withHeader "access-control-allow-origin" anyOf).withHeader
    "access-control-allow-methods" anyOf).withHeader "access-control-allow-headers" anyOf

def permit (inner : Answering State) : Answering State := fun request host =>
  if request.method = "OPTIONS" then (permission, host)
  else
    let (response, host) := inner request host
    ((response.withHeader "access-control-allow-origin" anyOf).withHeader
      "access-control-expose-headers" anyOf, host)

/-- Answers a request, given the time and an identifier for a request that bears none. -/
def respond (server : Server State) (timestamp : String) (freshId : List UInt8) :
    Answering State := fun request host =>
  let identified := identify freshId (server.serve timestamp)
  if server.properties.allowsOtherOrigins then permit identified request host
  else identified request host

end Server
end RequestDispatch
