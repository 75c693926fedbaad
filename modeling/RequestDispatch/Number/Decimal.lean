import RequestDispatch.Number.Binary

/-!
Decimal texts of binary numbers. A number is written with the fewest digits that are read back as
the same number, and among those with the nearest ones.
-/

namespace RequestDispatch
namespace Binary

variable {layout : Layout}

structure Digits where
  digits : Nat
  exponent : Int

/-- Which way a number goes that lies halfway between two candidates: to the greater one, or to the
one whose last digit is even. -/
inductive Tie where
  | up | even
  deriving DecidableEq

/-- The numbers that round to one value, over a common denominator, and the value itself. -/
structure Neighbourhood where
  low : Nat
  middle : Nat
  high : Nat
  denominator : Nat
  endsIncluded : Bool

def neighbourhood (layout : Layout) (rank : Nat) : Neighbourhood :=
  let (mantissa, exponent) := layout.scaled rank
  let below :=
    if mantissa = Nat.pow 2 layout.fractionBits ∧ layout.leastExponent < exponent then 1 else 2
  let unit := exponent - 2
  let up := Nat.pow 2 unit.toNat
  { low := (4 * mantissa - below) * up
    middle := 4 * mantissa * up
    high := (4 * mantissa + 2) * up
    denominator := Nat.pow 2 (-unit).toNat
    endsIncluded := mantissa % 2 == 0 }

/-- The digits of a multiple of a power of ten inside the neighbourhood that is nearest to its
middle, if that grid has one. -/
def Neighbourhood.onGrid (area : Neighbourhood) (tie : Tie) (exponent : Int) : Option Digits :=
  let factor := Nat.pow 10 (-exponent).toNat
  let cell := area.denominator * Nat.pow 10 exponent.toNat
  let low := area.low * factor
  let middle := area.middle * factor
  let high := area.high * factor
  let inside (count : Nat) : Bool :=
    0 < count &&
      if area.endsIncluded then low ≤ count * cell && count * cell ≤ high
      else low < count * cell && count * cell < high
  let floor := middle / cell
  let twice := 2 * (middle % cell)
  let nearerUp := cell < twice || cell == twice && (tie == .up || floor % 2 == 1)
  if inside floor && !(nearerUp && inside (floor + 1)) then some ⟨floor, exponent⟩
  else if inside (floor + 1) then some ⟨floor + 1, exponent⟩
  else none

def leadingExponent (numerator denominator : Nat) : Int :=
  if denominator ≤ numerator then (Nat.toDigits 10 (numerator / denominator)).length - 1
  else
    match (List.range 400).find? fun places => denominator ≤ numerator * Nat.pow 10 places with
    | some places => -(places : Int)
    | none => -400

def Digits.strip (value : Digits) : Nat → Digits
  | 0 => value
  | fuel + 1 =>
    if value.digits ≠ 0 ∧ value.digits % 10 = 0 then
      Digits.strip ⟨value.digits / 10, value.exponent + 1⟩ fuel
    else value

def shortest (tie : Tie) (layout : Layout) (rank : Nat) : Digits :=
  let area := neighbourhood layout rank
  let lead := leadingExponent area.middle area.denominator
  let found := (List.range 17).findSome? fun (count : Nat) => area.onGrid tie (lead - count)
  (found.getD ⟨0, 0⟩).strip 20

def Digits.positional (value : Digits) : String :=
  let written := Nat.toDigits 10 value.digits
  let point := (written.length : Int) + value.exponent
  if 0 ≤ value.exponent then
    String.ofList (written ++ List.replicate value.exponent.toNat '0')
  else if 0 < point then
    String.ofList (written.take point.toNat ++ '.' :: written.drop point.toNat)
  else String.ofList ('0' :: '.' :: List.replicate (-point).toNat '0' ++ written)

def text : Binary layout → String
  | .nan => "NaN"
  | .number negative rank _ =>
    let magnitude :=
      if rank = layout.topRank then "inf"
      else if rank = 0 then "0"
      else (shortest .up layout rank).positional
    if negative then "-" ++ magnitude else magnitude

def digitsValue (digits : List Char) : Nat :=
  digits.foldl (fun value digit => value * 10 + (digit.toNat - '0'.toNat)) 0

def readExponent? : List Char → Option Int
  | [] => some 0
  | letter :: rest =>
    if letter = 'e' ∨ letter = 'E' then
      let (negative, digits) :=
        match rest with
        | '-' :: digits => (true, digits)
        | '+' :: digits => (false, digits)
        | digits => (false, digits)
      if digits.isEmpty || !digits.all Char.isDigit then none
      else some (if negative then -(digitsValue digits : Int) else digitsValue digits)
    else none

def readUnsigned? (negative : Bool) (text : List Char) : Option (Binary layout) :=
  let whole := text.takeWhile Char.isDigit
  let afterWhole := text.dropWhile Char.isDigit
  let (fraction, rest) :=
    match afterWhole with
    | '.' :: more => (more.takeWhile Char.isDigit, more.dropWhile Char.isDigit)
    | _ => ([], afterWhole)
  if whole.isEmpty && fraction.isEmpty then none
  else
    (readExponent? rest).map fun exponent =>
      ofDecimal negative (digitsValue (whole ++ fraction)) (exponent - fraction.length)

/-- Reads a decimal number, `inf`, `infinity` or `nan` in any case, with an optional sign. -/
def read? (text : List Char) : Option (Binary layout) :=
  let (negative, unsigned) :=
    match text with
    | '-' :: rest => (true, rest)
    | '+' :: rest => (false, rest)
    | rest => (false, rest)
  let word := String.ofList (unsigned.map Char.toLower)
  if word == "inf" || word == "infinity" then some (infinity negative)
  else if word == "nan" then some .nan
  else readUnsigned? negative unsigned

end Binary
end RequestDispatch
