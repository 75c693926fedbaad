import RequestDispatch.Failure.Basic
import RequestDispatch.Json.Basic

/-!
The response that reports a failure: a JSON object with fixed fields. Failures of the server tell
only their status unless the dispatcher exposes details.
-/

namespace RequestDispatch

structure ErrorResponse where
  timestamp : String
  status : Nat
  error : String
  message : String
  path : String
  trace : Option String
  details : Option Json

def reasonPhrase : Nat → String
  | 200 => "OK"
  | 400 => "Bad Request"
  | 404 => "Not Found"
  | 413 => "Payload Too Large"
  | 500 => "Internal Server Error"
  | _ => "Unknown Error"

def DispatchError.details : DispatchError → Option Json
  | .missingParameter name source =>
    some (.object [("parameter", .text name), ("source", .text source.name)])
  | _ => none

def DispatchError.trace : DispatchError → Option String
  | .handler fault => some fault.fullDescription
  | _ => none

namespace ErrorResponse

def plain (timestamp : String) (status : Nat) (error message path : String) : ErrorResponse :=
  ⟨timestamp, status, error, message, path, none, none⟩

def ofFailure (timestamp : String) (failure : DispatchError) (path : String) (expose : Bool) :
    ErrorResponse :=
  let status := failure.status
  let reason := reasonPhrase status
  let hidden := 500 ≤ status && !expose
  { timestamp := timestamp
    status := status
    error := reason
    message := if hidden then reason else failure.message
    path := path
    trace := if expose then failure.trace else none
    details := failure.details }

/-- The status of the response itself: a number that is no status counts as 500. -/
def statusCode (response : ErrorResponse) : Nat :=
  if 100 ≤ response.status && response.status < 1000 then response.status else 500

/-- The fields in their order; trace and details only where there are some. -/
def toJson (response : ErrorResponse) : Json :=
  .object ([("timestamp", .text response.timestamp), ("status", .int response.status),
      ("error", .text response.error), ("message", .text response.message),
      ("path", .text response.path)] ++
    (response.trace.map fun trace => ("trace", Json.text trace)).toList ++
    (response.details.map fun details => ("details", details)).toList)

def body (response : ErrorResponse) : List UInt8 := Text.utf8Bytes response.toJson.compact

end ErrorResponse
end RequestDispatch
