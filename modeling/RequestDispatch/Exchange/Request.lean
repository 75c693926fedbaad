import RequestDispatch.Entries
import RequestDispatch.Exchange.Headers
import RequestDispatch.Text.Percent
import RequestDispatch.Value.Basic

/-!
Requests and sessions.
-/

namespace RequestDispatch

/-- What a request asks for: a path, empty if none is written, and the fields of a query string. An
absolute address loses its scheme, its host and its fragment; every other target is cut at its
first question mark. -/
structure Target where
  writtenPath : String
  query : List (String × String)

namespace Target

def path (target : Target) : String :=
  if target.writtenPath.isEmpty then "/" else target.writtenPath

def ofParts (path query : List Char) : Target :=
  { writtenPath := String.ofList path, query := Text.parseForm query }

def ofText (text : String) : Target :=
  match Text.splitOnce '?' text.toList with
  | some (path, query) => ofParts path query
  | none => ofParts text.toList []

def dropHost (address : List Char) : List Char :=
  address.dropWhile fun character => character ≠ '/' && character ≠ '?'

/-- What stands after the host of an address, or the text itself if it starts with a slash. An
address with a scheme always has a path, the root if none is written; a host alone has none. -/
def afterHost (address : List Char) : List Char :=
  match address with
  | '/' :: _ => address
  | ['*'] => address
  | _ =>
    match Text.splitAtPhrase [':', '/', '/'] address with
    | none => dropHost address
    | some (_, rest) =>
      match dropHost rest with
      | '/' :: path => '/' :: path
      | query => '/' :: query

def ofAddress (address : String) : Target :=
  let withoutFragment := address.toList.takeWhile (· ≠ '#')
  ofText (String.ofList (afterHost withoutFragment))

end Target

structure Request extends Target where
  method : String
  headers : Headers
  body : List UInt8

namespace Request

def queryParameter? (request : Request) (name : String) : Option String := request.query.lookup name

def queryParameters (request : Request) (name : String) : List String :=
  (request.query.filter fun field => field.1 == name).map Prod.snd

def hasQueryParameter (request : Request) (name : String) : Bool :=
  request.query.any fun field => field.1 == name

def header? (request : Request) (name : String) : Option String := request.headers.text? name

def headerValues (request : Request) (name : String) : List String := request.headers.texts name

/-- Adds a header; one with an invalid name or value is passed over. -/
def addHeader (request : Request) (name value : String) : Request :=
  match normalizeHeaderName? name, headerValue? value with
  | some key, some bytes => { request with headers := request.headers.append key bytes }
  | _, _ => request

end Request

/-- A session: attributes that belong to a client. A lasting session is kept by the host and
outlives the request; any other ends with it, even if it bears the same identifier. -/
structure Session where
  id : String
  attributes : Entries Value
  lasting : Bool

end RequestDispatch
