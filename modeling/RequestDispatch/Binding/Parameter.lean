import RequestDispatch.Failure.Causes
import RequestDispatch.Type.Descriptor

/-!
Parameters of handler methods and the part of an exchange that each is bound to.
-/

namespace RequestDispatch

inductive Binding where
  | query (name : String)
  | pathVariable (name : String)
  | header (name : String)
  | session (name : String)
  | requestAttribute (name : String)
  | interceptSlot
  | container (qualifier : Option String)
  deriving DecidableEq, Repr

namespace Binding

def source : Binding → ParameterSource
  | .query _ => .query
  | .pathVariable _ => .path
  | .header _ => .header
  | .session _ => .session
  | .requestAttribute _ => .requestAttribute
  | .interceptSlot => .interceptSlot
  | .container _ => .container

def name? : Binding → Option String
  | .query name | .pathVariable name | .header name | .session name | .requestAttribute name =>
    some name
  | .interceptSlot => none
  | .container qualifier => qualifier

end Binding

/-- A declared parameter. Several sources may be named; the binding says which one counts. -/
structure Parameter where
  name : String
  type : TypeDescriptor
  query : Option String
  pathVariable : Option String
  header : Option String
  session : Option String
  requestAttribute : Option String
  interceptSlot : Bool
  qualifier : Option String
  /-- The text that stands for a value that is missing. -/
  default : Option String
  required : Bool

namespace Parameter

def declare (name : String) (type : TypeDescriptor) : Parameter :=
  { name := name, type := type, query := none, pathVariable := none, header := none
    session := none, requestAttribute := none, interceptSlot := false, qualifier := none
    default := none, required := true }

/-- The source that counts: the query, then the path, the headers, the session, the attributes of
the request, the slot for interceptors, and the container if none of these is named. -/
def binding (parameter : Parameter) : Binding :=
  match parameter.query, parameter.pathVariable, parameter.header, parameter.session,
    parameter.requestAttribute with
  | some name, _, _, _, _ => .query name
  | none, some name, _, _, _ => .pathVariable name
  | none, none, some name, _, _ => .header name
  | none, none, none, some name, _ => .session name
  | none, none, none, none, some name => .requestAttribute name
  | none, none, none, none, none =>
    if parameter.interceptSlot then .interceptSlot else .container parameter.qualifier

end Parameter
end RequestDispatch
