import RequestDispatch.Exchange.Basic

/-!
Streams. The bytes of a stream can be read once; the attempt counts, whether it succeeds or fails.
-/

namespace RequestDispatch

inductive StreamReading where
  | noStream
  | exhausted
  | failed (reason : String)
  | bytes (content : List UInt8)
  deriving DecidableEq, Repr

/-- Reads an object to its end, given the streams that have been read. -/
def SharedObject.drain (object : SharedObject) (drained : List Identity) :
    StreamReading × List Identity :=
  match object.content with
  | .instance _ _ => (.noStream, drained)
  | .stream bytes failure =>
    if drained.contains object.identity then (.exhausted, drained)
    else
      let reading :=
        match failure with
        | some reason => .failed reason
        | none => .bytes bytes
      (reading, object.identity :: drained)

end RequestDispatch
