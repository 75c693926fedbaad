import RequestDispatch.Json.Basic

/-!
A directory of users: the state of a small application.
-/

namespace RequestDispatch

structure User where
  id : Int64
  name : String
  email : String
  tags : List String
  deriving DecidableEq, Repr

structure UserDirectory where
  users : List User
  /-- The number that the next user gets. -/
  nextId : Int64
  deriving DecidableEq, Repr

namespace User

def toValue (user : User) : Value :=
  .map [(.text "id", .int user.id), (.text "name", .text user.name),
    (.text "email", .text user.email), (.text "tags", .array (user.tags.map .text))]

def toJson (user : User) : Json :=
  .object [("id", .int user.id.toInt), ("name", .text user.name), ("email", .text user.email),
    ("tags", .array (user.tags.map .text))]

/-- The user agrees with a field of a search; a field that users do not have does not matter. -/
def hasField (user : User) (field expected : String) : Bool :=
  if field = "name" then user.name == expected
  else if field = "email" then user.email == expected
  else true

end User

namespace UserDirectory

def samples : UserDirectory :=
  ⟨[⟨1, "Alice", "alice@example.com", ["admin"]⟩, ⟨2, "Bob", "bob@example.com", ["ops", "dev"]⟩], 3⟩

/-- The users that bear one of the tags; all users if no tag is given. -/
def list (directory : UserDirectory) (tags : List String) : List User :=
  directory.users.filter fun user => tags.isEmpty || tags.any user.tags.contains

def search (directory : UserDirectory) (fields : List (String × String)) : List User :=
  directory.users.filter fun user => fields.all fun field => user.hasField field.1 field.2

def find? (directory : UserDirectory) (id : Int64) : Option User :=
  directory.users.find? fun user => user.id = id

def create (directory : UserDirectory) (name email : String) : User × UserDirectory :=
  let user : User := ⟨directory.nextId, name, email, []⟩
  (user, ⟨directory.users ++ [user], directory.nextId + 1⟩)

def delete? (directory : UserDirectory) (id : Int64) : Option UserDirectory :=
  if (directory.find? id).isSome then
    some { directory with users := directory.users.filter fun user => user.id ≠ id }
  else none

end UserDirectory

def usersText (users : List User) : String := (Json.array (users.map User.toJson)).compact

end RequestDispatch
