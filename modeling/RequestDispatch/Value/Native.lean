import RequestDispatch.Entries
import RequestDispatch.Text.Blank
import RequestDispatch.Value.Collection

/-!
Native types: the static types in which handler code takes its arguments. Each may have a type
descriptor, by which text is converted for it, and a way to read it from a dynamic value.
-/

namespace RequestDispatch

inductive SequenceForm where
  | vector | linked | deque | hashSet | orderedSet | slice
  deriving DecidableEq, Repr

inductive TableForm where
  | hashed | ordered
  deriving DecidableEq, Repr

def SequenceForm.frame : SequenceForm → String × String
  | .vector => ("alloc::vec::Vec<", ">")
  | .linked => ("alloc::collections::linked_list::LinkedList<", ">")
  | .deque => ("alloc::collections::vec_deque::VecDeque<", ">")
  | .hashSet => ("std::collections::hash::set::HashSet<", ">")
  | .orderedSet => ("alloc::collections::btree::set::BTreeSet<", ">")
  | .slice => ("alloc::boxed::Box<[", "]>")

def TableForm.name : TableForm → String
  | .hashed => "std::collections::hash::map::HashMap"
  | .ordered => "alloc::collections::btree::map::BTreeMap"

def SequenceForm.collectionKind? : SequenceForm → Option CollectionKind
  | .vector => some .arrayList
  | .linked => some .linkedList
  | .deque => some .arrayDeque
  | .hashSet => some .hashSet
  | .orderedSet => some .treeSet
  | .slice => none

inductive NativeType where
  | scalar (primitive : Primitive)
  | size
  | text
  | dynamic
  | optional (inner : NativeType)
  | sequence (form : SequenceForm) (element : NativeType)
  | table (form : TableForm) (key value : NativeType)
  | object (type : TypeKey)

namespace NativeType

def name : NativeType → String
  | .scalar primitive => primitive.key.name
  | .size => "usize"
  | .text => TypeKey.text.name
  | .dynamic => "Value"
  | .optional inner => "core::option::Option<" ++ inner.name ++ ">"
  | .sequence form element =>
    form.frame.1 ++ element.name ++ form.frame.2
  | .table form key value =>
    form.name ++ "<" ++ key.name ++ ", " ++ value.name ++ ">"
  | .object type => type.name

/-- The pieces of a list of type arguments: commas inside brackets do not separate. -/
def splitArguments (depth : Nat) : List Char → List (List Char)
  | [] => [[]]
  | character :: rest =>
    if character = ',' ∧ depth = 0 then [] :: splitArguments 0 rest
    else
      let inner :=
        if character = '<' ∨ character = '[' then depth + 1
        else if character = '>' ∨ character = ']' then depth - 1
        else depth
      match splitArguments inner rest with
      | [] => [[character]]
      | piece :: pieces => (character :: piece) :: pieces

/-- Reads the short name of a native type, with type arguments between angle brackets. Every level
of type arguments takes one unit of fuel. -/
def parseWith (object : TypeKey) : Nat → List Char → Option NativeType
  | 0, _ => none
  | fuel + 1, written =>
    let letters := Text.trimBoth Text.isBlank written
    let name := String.ofList (letters.takeWhile (· ≠ '<'))
    let arguments := ((letters.dropWhile (· ≠ '<')).drop 1).dropLast
    let inner := parseWith object fuel arguments
    match name with
    | "usize" => some .size
    | "String" => some .text
    | "Value" => some .dynamic
    | "Option" => inner.map .optional
    | "Vec" => inner.map (.sequence .vector)
    | "VecDeque" => inner.map (.sequence .deque)
    | "LinkedList" => inner.map (.sequence .linked)
    | "HashSet" => inner.map (.sequence .hashSet)
    | "BTreeSet" => inner.map (.sequence .orderedSet)
    | "Box" =>
      (parseWith object fuel (arguments.drop 1).dropLast).map (.sequence .slice)
    | "HashMap" | "BTreeMap" =>
      match splitArguments 0 arguments with
      | [key, value] => do
        let form := if name = "HashMap" then TableForm.hashed else TableForm.ordered
        return .table form (← parseWith object fuel key) (← parseWith object fuel value)
      | _ => none
    | "Arc" => some (.object object)
    | _ => (Primitive.ofName? name).map .scalar

def parse? (object : TypeKey) (written : String) : Option NativeType :=
  parseWith object (written.length + 1) written.toList

def descriptor? : NativeType → Option TypeDescriptor
  | .scalar primitive => some (.primitive primitive)
  | .text => some .text
  | .optional (.scalar primitive) => some (.boxed primitive)
  | .optional .text => some .text
  | .sequence form element => do
    let described ← element.descriptor?
    let bare :=
      match form.collectionKind? with
      | some kind => TypeDescriptor.collectionOf kind described
      | none => TypeDescriptor.arrayOf described
    return bare.withKey ⟨(NativeType.sequence form element).name⟩
  | .table form key value => do
    let bare := TypeDescriptor.mapOf (← key.descriptor?) (← value.descriptor?)
    return bare.withKey ⟨(NativeType.table form key value).name⟩
  | _ => none

end NativeType

inductive ValueError where
  | typeMismatch (expected found : String)
  | outOfRange (expected : String) (value : Int)
  | indexOutOfBounds (index length : Nat)
  deriving DecidableEq, Repr

def ValueError.message : ValueError → String
  | .typeMismatch expected found => "Expected " ++ expected ++ ", found " ++ found
  | .outOfRange expected value =>
    "Value " ++ toString value ++ " out of range for " ++ expected
  | .indexOutOfBounds index length =>
    "Argument index " ++ toString index ++ " out of bounds (" ++ toString length ++ " arguments)"

inductive Native where
  | integer (value : Int)
  | double (value : Double)
  | single (value : Single)
  | bool (value : Bool)
  | char (value : Char)
  | text (value : String)
  | absent
  | items (items : List Native)
  | entries (entries : List (String × Native))
  | value (value : Value)
  | object (value : SharedObject)

namespace Native

/-- The order of native scalars; an absent one comes first. -/
def order : Native → Native → Ordering
  | .absent, .absent => .eq
  | .absent, _ => .lt
  | _, .absent => .gt
  | .integer left, .integer right => compare left right
  | .bool left, .bool right => compare left.toNat right.toNat
  | .char left, .char right => compare left.toNat right.toNat
  | .text left, .text right => compare left right
  | _, _ => .eq

def insertAscending (element : Native) : List Native → List Native
  | [] => [element]
  | head :: rest =>
    match order element head with
    | .lt => element :: head :: rest
    | .eq => head :: rest
    | .gt => head :: insertAscending element rest

def ascending (elements : List Native) : List Native :=
  elements.foldl (fun sorted element => insertAscending element sorted) []

end Native

namespace NativeType

def sizeLimit : Int := 0xFFFFFFFFFFFFFFFF

def readInteger (expected : String) (least greatest : Int) : Value → Except ValueError Native
  | .int value =>
    if least ≤ value.toInt ∧ value.toInt ≤ greatest then .ok (.integer value.toInt)
    else .error (.outOfRange expected value.toInt)
  | other => .error (.typeMismatch expected other.kindName)

def readDouble (value : Value) : Except ValueError Double :=
  match value.asFloat? with
  | some number => .ok number
  | none => .error (.typeMismatch "f64" value.kindName)

def readScalar (primitive : Primitive) (value : Value) : Except ValueError Native :=
  match primitive with
  | .bool =>
    match value with
    | .bool flag => .ok (.bool flag)
    | other => .error (.typeMismatch "bool" other.kindName)
  | .char =>
    match value with
    | .char character => .ok (.char character)
    | other => .error (.typeMismatch "char" other.kindName)
  | .single => (readDouble value).map fun number => .single number.cast
  | .double => (readDouble value).map .double
  | integer =>
    match integer.range? with
    | some (least, greatest) => readInteger integer.key.name least greatest value
    | none => .error (.typeMismatch integer.key.name value.kindName)

def readText : Value → Except ValueError Native
  | .text value => .ok (.text value)
  | .enumeration _ variant => .ok (.text variant)
  | .char value => .ok (.text (String.ofList [value]))
  | other => .error (.typeMismatch "string" other.kindName)

/-- The elements of a sequence; null is the empty one. -/
def readItems (value : Value) : Except ValueError (List Value) :=
  match value with
  | .array items | .collection _ items => .ok items
  | .null => .ok []
  | other => .error (.typeMismatch "sequence" other.kindName)

def readEntries (value : Value) : Except ValueError (List (Value × Value)) :=
  match value with
  | .map entries => .ok entries
  | .null => .ok []
  | other => .error (.typeMismatch "map" other.kindName)

def arrange (form : SequenceForm) (elements : List Native) : List Native :=
  match form with
  | .hashSet | .orderedSet => Native.ascending elements
  | _ => elements

def read : NativeType → Value → Except ValueError Native
  | .scalar primitive, value => readScalar primitive value
  | .size, value => readInteger "usize" 0 sizeLimit value
  | .text, value => readText value
  | .dynamic, value => .ok (.value value)
  | .optional inner, value => if value.isNull then .ok .absent else inner.read value
  | .sequence form element, value => do
    let items ← readItems value
    let elements ← items.mapM fun item => element.read item
    return .items (arrange form elements)
  | .table _ _ element, value => do
    let entries ← readEntries value
    let texts ← entries.mapM fun entry => do
      return (entry.1.display, ← element.read entry.2)
    return .entries (Entries.ofList texts)
  | .object type, value =>
    match value with
    | .object ⟨identity, .instance actual label⟩ =>
      if actual = type then .ok (.object ⟨identity, .instance actual label⟩)
      else .error (.typeMismatch type.name value.kindName)
    | other => .error (.typeMismatch type.name other.kindName)

end NativeType
end RequestDispatch
