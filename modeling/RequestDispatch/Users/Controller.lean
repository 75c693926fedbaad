import RequestDispatch.Dispatch.Handler
import RequestDispatch.Users.Directory

/-!
The controller of the directory of users, the interceptor that finds out who is asking, and the
handlers of the faults that the controller throws.
-/

namespace RequestDispatch
namespace UserController

abbrev Handler := HandlerBody UserDirectory

def type : TypeKey := ⟨"UserController"⟩

def userService : TypeKey := ⟨"UserService"⟩

def userNotFound : TypeKey := ⟨"UserNotFound"⟩

def unauthorized : TypeKey := ⟨"Unauthorized"⟩

/-- Goes on with an argument read as a native type, or ends with the reason why it cannot be
read. -/
def withArgument (arguments : Arguments) (index : Nat) (type : NativeType)
    (next : Native → Program UserDirectory CallResult) : Program UserDirectory CallResult :=
  match arguments.read index type with
  | .ok native => next native
  | .error error => .finish (.error (.value error))

def withText (arguments : Arguments) (index : Nat)
    (next : String → Program UserDirectory CallResult) : Program UserDirectory CallResult :=
  withArgument arguments index .text fun
    | .text content => next content
    | _ => .abandon

def withId (arguments : Arguments) (index : Nat)
    (next : Int64 → Program UserDirectory CallResult) : Program UserDirectory CallResult :=
  withArgument arguments index (.scalar .int64) fun
    | .integer value => next (Int64.ofInt value)
    | _ => .abandon

def withService (arguments : Arguments) (next : Program UserDirectory CallResult) :
    Program UserDirectory CallResult :=
  withArgument arguments 0 (.object userService) fun _ => next

def answerUsers (select : UserDirectory → List User) : Program UserDirectory CallResult :=
  .act (.setHeader "content-type" "application/json") fun
    | .error error => .finish (.error (.dispatch error))
    | .ok () => .look fun exchange => .finish (.ok (.text (usersText (select exchange.state))))

def textsOf : Native → List String
  | .items items => items.filterMap fun
    | .text content => some content
    | _ => none
  | _ => []

def fieldsOf : Native → List (String × String)
  | .entries entries => entries.filterMap fun
    | (key, .text content) => some (key, content)
    | _ => none
  | _ => []

def list : Handler := fun arguments => withService arguments <|
  withArgument arguments 1 (.sequence .vector .text) fun tags =>
    answerUsers fun directory => directory.list (textsOf tags)

def search : Handler := fun arguments => withService arguments <|
  withArgument arguments 1 (.table .hashed .text .text) fun fields =>
    answerUsers fun directory => directory.search (fieldsOf fields)

def noSuchUser (id : Int64) : Fault :=
  .custom userNotFound ("User " ++ toString id.toInt ++ " not found") none

def showUser : Handler := fun arguments => withService arguments <|
  withId arguments 1 fun id => .look fun exchange =>
    match exchange.state.find? id with
    | some user => .finish (.ok user.toValue)
    | none => .finish (.error (noSuchUser id))

def create : Handler := fun arguments => withService arguments <|
  withText arguments 1 fun name => withText arguments 2 fun email => .look fun exchange =>
    let (user, directory) := exchange.state.create name email
    .act (.keep directory) fun _ => .finish (.ok (.int user.id))

def delete : Handler := fun arguments => withService arguments <|
  withId arguments 1 fun id => .look fun exchange =>
    match exchange.state.delete? id with
    | some directory => .act (.keep directory) fun _ => .finish (.ok .null)
    | none => .finish (.error (noSuchUser id))

def greet : Handler := fun arguments =>
  withText arguments 1 fun user => .finish (.ok (.text ("Hello, " ++ user)))

def method (name verb path : String) (parameters : List Parameter) (outcome : Outcome)
    (body : Handler) : HandlerMethod UserDirectory where
  name := name
  route := { RouteDeclaration.empty.allow verb with paths := [path] }
  parameters := parameters
  outcomes := [outcome]
  defaultView := none
  target := type
  body := body

def serviceParameter : Parameter :=
  Parameter.declare "service" (.object userService)

def queryParameter (name : String) (type : TypeDescriptor) : Parameter :=
  { Parameter.declare name type with query := some name }

def idParameter : Parameter :=
  { Parameter.declare "id" (.primitive .int64) with pathVariable := some "id" }

def tagsType : TypeDescriptor :=
  ((NativeType.sequence .vector .text).descriptor?).getD .text

def fieldsType : TypeDescriptor :=
  ((NativeType.table .hashed .text .text).descriptor?).getD .text

def definition : ControllerDefinition UserDirectory where
  type := type
  methods := [
    method "list" "GET" "/users"
      [serviceParameter, { queryParameter "tag" tagsType with required := false }] .write list,
    method "search" "GET" "/search/users"
      [serviceParameter, { queryParameter "filter" fieldsType with required := false }] .write
      search,
    method "show" "GET" "/users/\x7bid\x7d" [serviceParameter, idParameter]
      (.view (some "user")) showUser,
    method "create" "POST" "/users"
      [serviceParameter, queryParameter "name" .text, queryParameter "email" .text]
      (.redirect (some "/users/\x7b0\x7d")) create,
    method "delete" "DELETE" "/users/\x7bid\x7d" [serviceParameter, idParameter]
      (.status 204 none) delete,
    method "me" "GET" "/me"
      [{ Parameter.declare "token" .text with header := some "authorization", required := false },
        { Parameter.declare "user" .text with interceptSlot := true }] .write greet]

/-- What stands behind the scheme of a token, which may be repeated. -/
def bearer : List Char → List Char
  | 'B' :: 'e' :: 'a' :: 'r' :: 'e' :: 'r' :: ' ' :: rest => bearer rest
  | user => user

def tokenUser? (token : String) : Option String :=
  (Text.dropBeginning "Bearer ".toList token.toList).map fun rest => String.ofList (bearer rest)

/-- Finds out who is asking, and lets no call proceed without a token. -/
def currentUser : Interceptor UserDirectory where
  name := "CurrentUserInterceptor"
  advice := .inspect fun point _ =>
    let user :=
      match point.named? "token" with
      | some (.text token) => tokenUser? token
      | _ => none
    match user with
    | some user => .setNamed "user" (.text user) fun _ => .proceed .finish
    | none =>
      .finish (.error (.custom unauthorized "Missing or invalid authorization token" none))

def report (status : Nat) : ExceptionHandler UserDirectory := fun fault =>
  .act (.setStatus status) fun _ =>
    .act (.write (Text.utf8Bytes fault.message)) fun _ => .finish true

end UserController
end RequestDispatch
