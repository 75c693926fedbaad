/-!
Binary floating-point numbers of a fixed layout. The non-negative values of a layout, infinity
included, are numbered from zero upwards; a number is its sign together with that rank. Order and
equality are then order and equality of signed ranks, and the two zeros have the same one.
-/

namespace RequestDispatch

structure Layout where
  fractionBits : Nat
  exponentBits : Nat

namespace Layout

def double : Layout := ⟨52, 11⟩

def single : Layout := ⟨23, 8⟩

def topRank (layout : Layout) : Nat :=
  (Nat.pow 2 layout.exponentBits - 1) * Nat.pow 2 layout.fractionBits

def leastExponent (layout : Layout) : Int :=
  2 - (Nat.pow 2 (layout.exponentBits - 1) : Int) - layout.fractionBits

/-- The finite value of this rank is the first component times two to the second. -/
def scaled (layout : Layout) (rank : Nat) : Nat × Int :=
  let field := rank / Nat.pow 2 layout.fractionBits
  let fraction := rank % Nat.pow 2 layout.fractionBits
  if field = 0 then (fraction, layout.leastExponent)
  else (fraction + Nat.pow 2 layout.fractionBits, layout.leastExponent + field - 1)

def quotientLog (numerator denominator : Nat) : Int :=
  let guess : Int := (numerator.log2 : Int) - denominator.log2
  let below :=
    if 0 ≤ guess then numerator < denominator * Nat.pow 2 guess.toNat
    else numerator * Nat.pow 2 (-guess).toNat < denominator
  if below then guess - 1 else guess

/-- A quotient rounded to the nearest natural number, a half to the even one. -/
def roundQuotient (numerator denominator : Nat) : Nat :=
  let floor := numerator / denominator
  let twice := 2 * (numerator % denominator)
  if twice < denominator then floor
  else if denominator < twice then floor + 1
  else floor + floor % 2

/-- The rank nearest to a quotient; of two equally near ones the even one. -/
def nearestRank (layout : Layout) (numerator denominator : Nat) : Nat :=
  if numerator = 0 then 0
  else
    let exponent :=
      max (quotientLog numerator denominator - layout.fractionBits) layout.leastExponent
    let mantissa :=
      if 0 ≤ exponent then roundQuotient numerator (denominator * Nat.pow 2 exponent.toNat)
      else roundQuotient (numerator * Nat.pow 2 (-exponent).toNat) denominator
    min layout.topRank
      ((exponent - layout.leastExponent).toNat * Nat.pow 2 layout.fractionBits + mantissa)

theorem nearestRank_le (layout : Layout) (numerator denominator : Nat) :
    layout.nearestRank numerator denominator ≤ layout.topRank := by
  unfold nearestRank
  split
  · exact Nat.zero_le _
  · exact Nat.min_le_left _ _

end Layout

inductive Binary (layout : Layout) where
  | nan
  | number (negative : Bool) (rank : Nat) (bounded : rank ≤ layout.topRank)
  deriving DecidableEq

abbrev Double := Binary Layout.double

abbrev Single := Binary Layout.single

namespace Binary

variable {layout : Layout}

def infinity (negative : Bool) : Binary layout := .number negative layout.topRank (Nat.le_refl _)

def zero (negative : Bool) : Binary layout := .number negative 0 (Nat.zero_le _)

def ofQuotient (negative : Bool) (numerator denominator : Nat) : Binary layout :=
  .number negative (layout.nearestRank numerator denominator)
    (layout.nearestRank_le numerator denominator)

def ofInt (value : Int) : Binary layout := ofQuotient (value < 0) value.natAbs 1

def ofScaled (negative : Bool) (mantissa : Nat) (exponent : Int) : Binary layout :=
  if 0 ≤ exponent then ofQuotient negative (mantissa * Nat.pow 2 exponent.toNat) 1
  else ofQuotient negative mantissa (Nat.pow 2 (-exponent).toNat)

def negate : Binary layout → Binary layout
  | .nan => .nan
  | .number negative rank bounded => .number (!negative) rank bounded

def multipliedBy : Binary layout → Binary layout → Binary layout
  | .number leftNegative left _, .number rightNegative right _ =>
    let negative := leftNegative != rightNegative
    if left = layout.topRank ∨ right = layout.topRank then
      if left = 0 ∨ right = 0 then .nan else infinity negative
    else
      let (leftMantissa, leftExponent) := layout.scaled left
      let (rightMantissa, rightExponent) := layout.scaled right
      ofScaled negative (leftMantissa * rightMantissa) (leftExponent + rightExponent)
  | _, _ => .nan

def dividedBy : Binary layout → Binary layout → Binary layout
  | .number leftNegative left _, .number rightNegative right _ =>
    let negative := leftNegative != rightNegative
    if left = layout.topRank then if right = layout.topRank then .nan else infinity negative
    else if right = layout.topRank then zero negative
    else if right = 0 then if left = 0 then .nan else infinity negative
    else
      let (leftMantissa, leftExponent) := layout.scaled left
      let (rightMantissa, rightExponent) := layout.scaled right
      let shift := leftExponent - rightExponent
      ofQuotient negative (leftMantissa * Nat.pow 2 shift.toNat)
        (rightMantissa * Nat.pow 2 (-shift).toNat)
  | _, _ => .nan

/-- A decimal number of the given sign: the digits times a power of ten, rounded to the layout.
Powers far outside every layout are answered at once. -/
def ofDecimal (negative : Bool) (digits : Nat) (exponent : Int) : Binary layout :=
  let length : Int := (Nat.toDigits 10 digits).length
  if digits = 0 then zero negative
  else if 400 < exponent + length then infinity negative
  else if exponent + length < -400 then zero negative
  else if 0 ≤ exponent then ofQuotient negative (digits * Nat.pow 10 exponent.toNat) 1
  else ofQuotient negative digits (Nat.pow 10 (-exponent).toNat)

def cast {target : Layout} : Binary layout → Binary target
  | .nan => .nan
  | .number negative rank _ =>
    if rank = layout.topRank then infinity negative
    else
      let (mantissa, exponent) := layout.scaled rank
      ofScaled negative mantissa exponent

/-- The place of a number in the order of the layout; both zeros stand at zero. -/
def signedRank? : Binary layout → Option Int
  | .nan => none
  | .number negative rank _ => some (if negative then -(rank : Int) else rank)

def equal (left right : Binary layout) : Bool :=
  match left.signedRank?, right.signedRank? with
  | some leftRank, some rightRank => leftRank == rightRank
  | _, _ => false

def compare? (left right : Binary layout) : Option Ordering :=
  match left.signedRank?, right.signedRank? with
  | some leftRank, some rightRank => some (compare leftRank rightRank)
  | _, _ => none

theorem equal_comm (left right : Binary layout) : left.equal right = right.equal left := by
  cases left <;> cases right <;> simp [equal, signedRank?, Bool.beq_comm]

end Binary
end RequestDispatch
