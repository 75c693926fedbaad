import RequestDispatch.Exchange.Headers

/-!
The response of an exchange while it is being written. It is committed once somebody has given it
a status or a body.
-/

namespace RequestDispatch

structure ResponseSink where
  status : Nat
  headers : Headers
  body : List UInt8
  committed : Bool

namespace ResponseSink

def fresh : ResponseSink := ⟨200, .empty, [], false⟩

def setStatus (sink : ResponseSink) (status : Nat) : ResponseSink :=
  { sink with status := status, committed := true }

def setHeader (sink : ResponseSink) (name value : String) : Except HeaderProblem ResponseSink :=
  match normalizeHeaderName? name with
  | none => .error (.invalidName name)
  | some key =>
    match headerValue? value with
    | none => .error (.invalidValue key)
    | some bytes => .ok { sink with headers := sink.headers.insert key bytes }

/-- Sets the content type if none is set; an invalid one is passed over. -/
def defaultContentType (sink : ResponseSink) (value : String) : ResponseSink :=
  if sink.headers.contains "content-type" then sink
  else
    match headerValue? value with
    | none => sink
    | some bytes => { sink with headers := sink.headers.insert "content-type" bytes }

def write (sink : ResponseSink) (bytes : List UInt8) : ResponseSink :=
  { sink with body := sink.body ++ bytes, committed := true }

def writeText (sink : ResponseSink) (text : String) : ResponseSink :=
  sink.write (Text.utf8Bytes text)

def redirect (sink : ResponseSink) (location : String) : Except HeaderProblem ResponseSink :=
  match headerValue? location with
  | none => .error (.invalidValue ("Location " ++ location))
  | some bytes =>
    .ok { status := 302, headers := sink.headers.insert "location" bytes, body := [],
          committed := true }

def reset (_ : ResponseSink) : ResponseSink := fresh

def bodyText (sink : ResponseSink) : String := Text.decodeUtf8Lossy sink.body

theorem reset_eq_fresh (sink : ResponseSink) : sink.reset = fresh := rfl

end ResponseSink
end RequestDispatch
