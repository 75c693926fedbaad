import RequestDispatch.Json.Basic
import RequestDispatch.Text.Hex

/-!
Reading JSON. Each reader gives what it read and the text behind it. A number without a fraction
and without an exponent is an integer where 64 bits hold it. The others are read fast rather than
exactly: the digits that fit into 64 bits are rounded to a number, which is then scaled by a power
of ten and rounded once more.
-/

namespace RequestDispatch
namespace Json

def skipBlanks (text : List Char) : List Char :=
  text.dropWhile fun character => [' ', '\t', '\n', '\r'].contains character

def wordLimit : Nat := Nat.pow 2 64 - 1

/-- Takes digits into a word as long as it holds them. The count of digits taken, and the text
behind them. -/
def gather (word : Nat) : List Char → Nat × Nat × List Char
  | [] => (word, 0, [])
  | character :: rest =>
    let next := word * 10 + (character.toNat - '0'.toNat)
    if character.isDigit && next ≤ wordLimit then
      let (gathered, count, behind) := gather next rest
      (gathered, count + 1, behind)
    else (word, 0, character :: rest)

/-- A positive number times, or for a negative exponent divided by, the number nearest to a power of
ten. Of powers that are no numbers a few steps are taken apart; too great a number is refused. -/
def scale? (number : Double) (exponent : Int) : Nat → Option Double
  | 0 => none
  | steps + 1 =>
    if exponent.natAbs ≤ 308 then
      let power := Binary.ofInt (Nat.pow 10 exponent.natAbs)
      if exponent < 0 then some (number.dividedBy power)
      else
        let scaled := number.multipliedBy power
        if scaled = Binary.infinity false then none else some scaled
    else if number = Binary.zero false then some number
    else if 0 ≤ exponent then none
    else scale? (number.dividedBy (Binary.ofInt (Nat.pow 10 308))) (exponent + 308) steps

/-- The number of a word and a power of ten. Every number vanishes within three divisions by the
greatest power. -/
def ofParts? (negative : Bool) (word : Nat) (exponent : Int) : Option Json :=
  (scale? (Binary.ofInt word) exponent 4).map fun number =>
    .float (if negative then number.negate else number)

def readExponent : List Char → Option (Option Int × List Char)
  | letter :: rest =>
    if letter = 'e' ∨ letter = 'E' then
      let (negative, written) :=
        match rest with
        | '+' :: digits => (false, digits)
        | '-' :: digits => (true, digits)
        | digits => (false, digits)
      let digits := written.takeWhile Char.isDigit
      if digits.isEmpty then none
      else
        let size : Int := Binary.digitsValue digits
        some (some (if negative then -size else size), written.dropWhile Char.isDigit)
    else some (none, letter :: rest)
  | [] => some (none, [])

def readFraction (word : Nat) : List Char → Option ((Nat × Option Int) × List Char)
  | '.' :: rest =>
    if (rest.head?.any Char.isDigit) then
      let (gathered, count, behind) := gather word rest
      some ((gathered, some (-(count : Int))), behind.dropWhile Char.isDigit)
    else none
  | rest => some ((word, none), rest)

def readNumber (negative : Bool) : List Char → Option (Json × List Char)
  | [] => none
  | first :: rest =>
    if !first.isDigit || first = '0' && rest.head?.any Char.isDigit then none
    else do
      let (whole, _, afterWhole) := gather 0 (first :: rest)
      let surplus := (afterWhole.takeWhile Char.isDigit).length
      let ((word, shift), afterFraction) ←
        readFraction whole (afterWhole.dropWhile Char.isDigit)
      let (exponent, behind) ← readExponent afterFraction
      let isInteger := surplus = 0 && shift.isNone && exponent.isNone
      if isInteger && !negative then return (.int whole, behind)
      else if isInteger && 0 < whole && whole ≤ Nat.pow 2 63 then return (.int (-whole), behind)
      else
        let number ← ofParts? negative word (surplus + shift.getD 0 + exponent.getD 0)
        return (number, behind)

def escaped? : Char → Option Char
  | '"' => some '"'
  | '\\' => some '\\'
  | '/' => some '/'
  | 'b' => some '\x08'
  | 'f' => some '\x0c'
  | 'n' => some '\n'
  | 'r' => some '\r'
  | 't' => some '\t'
  | _ => none

/-- The character of a unit of sixteen bits, alone or behind the first unit of a pair. The first
unit of a pair is none yet; then it is given back. -/
def readUnit (pending : Option Nat) (unit : Nat) : Option (Char ⊕ Nat) :=
  match pending with
  | some high =>
    if 0xDC00 ≤ unit && unit ≤ 0xDFFF then
      some (.inl (Char.ofNat (0x10000 + (high - 0xD800) * 0x400 + (unit - 0xDC00))))
    else none
  | none =>
    if unit < 0xD800 || 0xDFFF < unit then some (.inl (Char.ofNat unit))
    else if unit < 0xDC00 then some (.inr unit)
    else none

/-- The characters of a string up to the closing quote. What has been read stands in reverse, and
the first unit of a pair is pending until the second one comes. -/
def readCharacters (pending : Option Nat) (read : List Char) :
    List Char → Option (String × List Char)
  | [] => none
  | '\\' :: 'u' :: first :: second :: third :: fourth :: rest =>
    match [first, second, third, fourth].mapM Text.hexValue? with
    | none => none
    | some digits =>
      match readUnit pending (digits.foldl (fun value digit => value * 16 + digit) 0) with
      | some (.inl character) => readCharacters none (character :: read) rest
      | some (.inr high) => readCharacters (some high) read rest
      | none => none
  | '\\' :: letter :: rest =>
    match pending, escaped? letter with
    | none, some character => readCharacters none (character :: read) rest
    | _, _ => none
  | character :: rest =>
    if pending.isSome || character.toNat < 0x20 then none
    else if character = '"' then some (String.ofList read.reverse, rest)
    else readCharacters none (character :: read) rest

def readString (text : List Char) : Option (String × List Char) := readCharacters none [] text

mutual

def readValue : Nat → List Char → Option (Json × List Char)
  | 0, _ => none
  | bound + 1, input =>
    match skipBlanks input with
    | 'n' :: 'u' :: 'l' :: 'l' :: rest => some (.null, rest)
    | 't' :: 'r' :: 'u' :: 'e' :: rest => some (.bool true, rest)
    | 'f' :: 'a' :: 'l' :: 's' :: 'e' :: rest => some (.bool false, rest)
    | '"' :: rest => (readString rest).map fun (content, behind) => (.text content, behind)
    | '-' :: rest => readNumber true rest
    | '[' :: rest =>
      match skipBlanks rest with
      | ']' :: behind => some (.array [], behind)
      | _ => (readItems bound rest).map fun (items, behind) => (.array items, behind)
    | '\x7b' :: rest =>
      match skipBlanks rest with
      | '\x7d' :: behind => some (.object [], behind)
      | _ =>
        (readFields bound rest).map fun (fields, behind) =>
          (.object (Entries.ofList fields), behind)
    | rest => readNumber false rest

def readItems : Nat → List Char → Option (List Json × List Char)
  | 0, _ => none
  | bound + 1, input => do
    let (item, rest) ← readValue bound input
    match skipBlanks rest with
    | ',' :: more =>
      let (items, behind) ← readItems bound more
      return (item :: items, behind)
    | ']' :: behind => return ([item], behind)
    | _ => none

def readFields : Nat → List Char → Option (List (String × Json) × List Char)
  | 0, _ => none
  | bound + 1, input =>
    match skipBlanks input with
    | '"' :: rest => do
      let (name, afterName) ← readString rest
      match skipBlanks afterName with
      | ':' :: written =>
        let (value, afterValue) ← readValue bound written
        match skipBlanks afterValue with
        | ',' :: more =>
          let (fields, behind) ← readFields bound more
          return ((name, value) :: fields, behind)
        | '\x7d' :: behind => return ([(name, value)], behind)
        | _ => none
      | _ => none
    | _ => none

end

/-- Reads a text that holds one value. The fields of an object come to stand in the order of their
names, and of equal names the last counts. -/
def parse? (text : String) : Option Json :=
  let characters := text.toList
  match readValue (2 * characters.length + 2) characters with
  | some (value, rest) => if (skipBlanks rest).isEmpty then some value else none
  | none => none

end Json
end RequestDispatch
