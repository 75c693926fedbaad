import RequestDispatch.Interception.Advice
import RequestDispatch.Value.Native

/-!
Scripts: handlers and interceptors that are written as lists of statements. Scripts keep a journal,
to which their statements add lines.
-/

namespace RequestDispatch

/-- What scripts keep between requests: the lines they have written, and the serial number of the
next object they make. -/
structure Journal where
  lines : List String
  nextSerial : Nat

/-- A value that is written out in a script. Each time a statement needs it, it is made anew, so
that its objects are new ones; making it takes serial numbers. -/
abbrev ScriptValue := Nat → Value × Nat

namespace Journal

def empty : Journal := ⟨[], 0⟩

def note (journal : Journal) (line : String) : Journal :=
  { journal with lines := journal.lines ++ [line] }

def clear (journal : Journal) : Journal := { journal with lines := [] }

def make (journal : Journal) (value : ScriptValue) : Value × Journal :=
  let (made, next) := value journal.nextSerial
  (made, { journal with nextSerial := next })

end Journal
end RequestDispatch
