import RequestDispatch.Sorting.Stable
import RequestDispatch.Value.Basic

/-!
The natural order of values and the building of collections. Sets hold the first of equal
elements; sorted sets hold their elements in natural order.
-/

namespace RequestDispatch
namespace Value

/-- The natural order: integers by size, other numbers by numerical order where it is defined, null
first, and all else by text. -/
def naturalOrder (left right : Value) : Ordering :=
  match left, right with
  | .int leftInt, .int rightInt => compare leftInt.toInt rightInt.toInt
  | _, _ =>
    match left.asFloat?, right.asFloat? with
    | some leftNumber, some rightNumber => (leftNumber.compare? rightNumber).getD .eq
    | _, _ =>
      match left, right with
      | .null, .null => .eq
      | .null, _ => .lt
      | _, .null => .gt
      | _, _ => compare left.display right.display

inductive ScalarKey where
  | null
  | bool (value : Bool)
  | int (value : Int64)
  | float (signedRank : Int)
  | char (value : Char)
  | text (value : String)
  | bytes (value : List UInt8)
  | enumeration (type : TypeKey) (variant : String)
  deriving DecidableEq

/-- The key of a scalar; compound values, objects and what is not a number have none. -/
def scalarKey? : Value → Option ScalarKey
  | .null => some .null
  | .bool value => some (.bool value)
  | .int value => some (.int value)
  | .float value => value.signedRank?.map .float
  | .char value => some (.char value)
  | .text value => some (.text value)
  | .bytes value => some (.bytes value)
  | .enumeration type variant => some (.enumeration type variant)
  | _ => none

def isFloat : Value → Bool
  | .float _ => true
  | _ => false

/-- The items without later duplicates: scalars are looked up by key, what is not a number is
always kept, and all else is compared with each such item kept before. -/
def dedupFrom (seen : List ScalarKey) (others : List Value) : List Value → List Value
  | [] => []
  | item :: rest =>
    match item.scalarKey? with
    | some key =>
      if seen.contains key then dedupFrom seen others rest
      else item :: dedupFrom (key :: seen) others rest
    | none =>
      if item.isFloat then item :: dedupFrom seen others rest
      else if others.any fun other => other.equal item then dedupFrom seen others rest
      else item :: dedupFrom seen (others ++ [item]) rest

def dedup (items : List Value) : List Value := dedupFrom [] [] items

def naturallyBefore (left right : Value) : Bool := naturalOrder left right = .lt

/-- The items in natural order; equal items keep their order. The natural order is not transitive
over numbers mixed with texts, nor where something is not a number; there the way of sorting decides
which arrangement results, or that none does. -/
def sortNatural? (items : List Value) : Option (List Value) :=
  Sorting.stableSort? naturallyBefore items

/-- A collection of the concrete kind, its elements unique and sorted as the kind asks. There is
none when the elements cannot be sorted. -/
def collect? (kind : CollectionKind) (items : List Value) : Option Value :=
  let concrete := kind.concrete
  let unique := if concrete.isUnique then dedup items else items
  (if concrete.isSorted then sortNatural? unique else some unique).map (.collection concrete)

end Value
end RequestDispatch
