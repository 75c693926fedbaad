import RequestDispatch.Dispatch.Host
import RequestDispatch.Document.Value

/-!
Requests and responses as JSON documents.
-/

namespace RequestDispatch

instance : ToJson Headers := ⟨fun headers => toJson headers.sorted⟩

instance : ToJson ResponseSink where
  toJson sink :=
    .object [("status", toJson sink.status), ("headers", toJson sink.headers),
      ("body", toJson sink.body), ("committed", toJson sink.committed)]

def PathBindings.toJson (bindings : PathBindings) : Json :=
  .object (bindings.map fun binding => (binding.1, .text binding.2))

def PathBindings.ofJson (json : Json) : PathBindings :=
  json.fields.map fun field => (field.1, field.2.content)

namespace Request

/-- Reads the parts of a request that has come in: its target is an address, and its headers have
values of any bytes. -/
def ofParts (json : Json) : Request :=
  { Target.ofAddress (json.textAt "uri") with
    method := (json.textAt? "method").getD "GET"
    headers := (json.listAt "headers").foldl (fun headers field =>
      match normalizeHeaderName? (field.textAt 0) with
      | some name => headers.append name (bytesOfJson (field.part 1))
      | none => headers) .empty
    body := bytesOfJson (json.part "body") }

def ofTexts (json : Json) : Request :=
  (json.listAt "headers").foldl (fun request field =>
    request.addHeader (field.textAt 0) (field.textAt 1))
    { Target.ofText (json.textAt "uri") with
      method := (json.textAt? "method").getD "GET"
      headers := .empty
      body := bytesOfJson (json.part "body") }

def ofJson (json : Json) : Request := if json.flagAt "parts" then ofParts json else ofTexts json

end Request

def namedValues (objects : TypeKey) (json : Json) : Numbered (Entries Value) :=
  .ofList <$> json.items.mapM fun entry => do
    return (entry.textAt 0, ← Value.ofJson objects (entry.part 1))

def Session.ofJson (objects : TypeKey) (lasting : Bool) (json : Json) : Numbered Session := do
  return ⟨json.textAt "id", ← namedValues objects (json.part "attrs"), lasting⟩

/-- Reads the beginning of an exchange. Its session is written out and ends with it, or it is one
that the host keeps. -/
def Exchange.ofJson {State : Type} (objects : TypeKey) (host : Host State) (json : Json) :
    Numbered (Exchange State) := do
  let session ←
    match json.part "session" with
    | .null => pure none
    | .text id => pure (some ((host.session? id).getD ⟨id, [], false⟩))
    | written => some <$> Session.ofJson objects false written
  return { Exchange.start (Request.ofJson json) host.state with
    attributes := ← namedValues objects (json.part "attrs"), session := session }

end RequestDispatch
