import RequestDispatch.Number.Decimal

/-!
Decimal texts of integers: an optional sign and one or more digits.
-/

namespace RequestDispatch
namespace Integer

def readDigits? (text : List Char) : Option Nat :=
  if text.isEmpty || !text.all Char.isDigit then none else some (Binary.digitsValue text)

/-- Reads an integer. A minus sign is admitted only where negative numbers are. -/
def read? (signed : Bool) : List Char → Option Int
  | '+' :: digits => (readDigits? digits).map Int.ofNat
  | '-' :: digits => if signed then (readDigits? digits).map fun value => -(value : Int) else none
  | digits => (readDigits? digits).map Int.ofNat

def readWithin? (least greatest : Int) (text : List Char) : Option Int :=
  (read? (decide (least < 0)) text).filter fun value => least ≤ value && value ≤ greatest

end Integer
end RequestDispatch
