import RequestDispatch.Text.Casing
import RequestDispatch.Text.Split

/-!
Type keys: the names by which types are told apart at run time. A key may carry a module path,
written with double colons, and type arguments, written between angle brackets.
-/

namespace RequestDispatch

structure TypeKey where
  name : String
  deriving DecidableEq, Hashable, Repr

/-- The beginning of a list after which the last double colon ends, as a count of characters. -/
def lastPathEnd (text : List Char) : Nat :=
  match text with
  | [] => 0
  | [_] => 0
  | first :: second :: rest =>
    let deeper := lastPathEnd (second :: rest)
    if deeper ≠ 0 then deeper + 1
    else if first = ':' ∧ second = ':' then 2
    else 0

namespace TypeKey

/-- The name without its module path; the path is looked for before the type arguments only. -/
def simpleName (key : TypeKey) : String :=
  let text := key.name.toList
  String.ofList (text.drop (lastPathEnd (text.takeWhile (· ≠ '<'))))

/-- The name under which a bean of this type is registered when none is given: the simple name
without type arguments, its first letter in lower case. -/
def beanName (key : TypeKey) : String :=
  Text.lowerFirst (String.ofList (key.simpleName.toList.takeWhile (· ≠ '<')))

def object : TypeKey := ⟨"Object"⟩

def number : TypeKey := ⟨"Number"⟩

def enumeration : TypeKey := ⟨"Enum"⟩

def characters : TypeKey := ⟨"CharSequence"⟩

def text : TypeKey := ⟨"alloc::string::String"⟩

end TypeKey

structure MethodKey where
  owner : TypeKey
  name : String
  deriving DecidableEq, Hashable, Repr

namespace MethodKey

def qualified (method : MethodKey) : String := method.owner.name ++ "::" ++ method.name

def signature (method : MethodKey) : String := method.owner.simpleName ++ "::" ++ method.name

end MethodKey
end RequestDispatch
