import RequestDispatch.Value.Native

/-!
The arguments of one call, in the order of the parameters.
-/

namespace RequestDispatch

structure Arguments where
  values : List Value

namespace Arguments

def length (arguments : Arguments) : Nat := arguments.values.length

def isEmpty (arguments : Arguments) : Bool := arguments.values.isEmpty

def get? (arguments : Arguments) (index : Nat) : Option Value := arguments.values[index]?

def set (arguments : Arguments) (index : Nat) (value : Value) : Except ValueError Arguments :=
  if index < arguments.length then .ok ⟨arguments.values.set index value⟩
  else .error (.indexOutOfBounds index arguments.length)

def read (arguments : Arguments) (index : Nat) (type : NativeType) : Except ValueError Native :=
  match arguments.get? index with
  | some value => type.read value
  | none => .error (.indexOutOfBounds index arguments.length)

/-- Reads an argument as a native type and leaves null in its place, also when it cannot be
read. -/
def take (arguments : Arguments) (index : Nat) (type : NativeType) :
    Except ValueError Native × Arguments :=
  match arguments.get? index with
  | some value => (type.read value, ⟨arguments.values.set index .null⟩)
  | none => (.error (.indexOutOfBounds index arguments.length), arguments)

def inspect (arguments : Arguments) : String :=
  "Arguments \x7b values: [" ++ ", ".intercalate (Value.inspectItems arguments.values) ++ "] \x7d"

end Arguments
end RequestDispatch
