import RequestDispatch.Settings.Value
import RequestDispatch.Text.Hex

/-!
Scalars of TOML documents: strings in their four forms, numbers, truth values, dates and times.
Every reader takes the text from where the scalar begins and gives the scalar and the text behind
it, or nothing if the text is malformed.
-/

namespace RequestDispatch
namespace Toml

def isBlank (character : Char) : Bool := character = ' ' || character = '\t'

def skipBlanks (text : List Char) : List Char := text.dropWhile isBlank

def isPrintable (character : Char) : Bool :=
  character = '\t' || (' ' ≤ character && character ≠ '\x7f')

def simpleEscape? : Char → Option Char
  | 'b' => some '\x08'
  | 't' => some '\t'
  | 'n' => some '\n'
  | 'f' => some '\x0c'
  | 'r' => some '\r'
  | '"' => some '"'
  | '\\' => some '\\'
  | _ => none

def codePoint? (digits : List Char) : Option Char := do
  let values ← digits.mapM Text.hexValue?
  let code := values.foldl (fun code digit => 16 * code + digit) 0
  if code.isValidChar then some (Char.ofNat code) else none

def readBasic (gathered : List Char) : List Char → Option (String × List Char)
  | '"' :: rest => some (String.ofList gathered.reverse, rest)
  | '\\' :: 'u' :: a :: b :: c :: d :: rest =>
    (codePoint? [a, b, c, d]).bind fun character => readBasic (character :: gathered) rest
  | '\\' :: 'U' :: a :: b :: c :: d :: e :: f :: g :: h :: rest =>
    (codePoint? [a, b, c, d, e, f, g, h]).bind fun character =>
      readBasic (character :: gathered) rest
  | '\\' :: escape :: rest =>
    (simpleEscape? escape).bind fun character => readBasic (character :: gathered) rest
  | character :: rest =>
    if isPrintable character && character ≠ '\\' then readBasic (character :: gathered) rest
    else none
  | [] => none

def lineEnds (text : List Char) : Bool :=
  match skipBlanks text with
  | '\n' :: _ => true
  | '\r' :: '\n' :: _ => true
  | _ => false

/-- Reads a basic string of several lines behind its opening quotes. Up to two quotes may stand
before the closing ones. While skipping, blanks and line ends are passed over. -/
def readBasicLines (skipping : Bool) (gathered : List Char) :
    List Char → Option (String × List Char)
  | '"' :: '"' :: '"' :: '"' :: '"' :: rest =>
    some (String.ofList ('"' :: '"' :: gathered).reverse, rest)
  | '"' :: '"' :: '"' :: '"' :: rest => some (String.ofList ('"' :: gathered).reverse, rest)
  | '"' :: '"' :: '"' :: rest => some (String.ofList gathered.reverse, rest)
  | '\\' :: 'u' :: a :: b :: c :: d :: rest =>
    (codePoint? [a, b, c, d]).bind fun character =>
      readBasicLines false (character :: gathered) rest
  | '\\' :: 'U' :: a :: b :: c :: d :: e :: f :: g :: h :: rest =>
    (codePoint? [a, b, c, d, e, f, g, h]).bind fun character =>
      readBasicLines false (character :: gathered) rest
  | '\\' :: escape :: rest =>
    if lineEnds (escape :: rest) then
      readBasicLines true gathered rest
    else
      (simpleEscape? escape).bind fun character =>
        readBasicLines false (character :: gathered) rest
  | '\r' :: '\n' :: rest =>
    readBasicLines skipping (if skipping then gathered else '\n' :: gathered) rest
  | character :: rest =>
    if skipping && (isBlank character || character = '\n') then
      readBasicLines true gathered rest
    else if character = '\n' || (isPrintable character && character ≠ '\\') then
      readBasicLines false (character :: gathered) rest
    else none
  | [] => none

def readLiteral (gathered : List Char) : List Char → Option (String × List Char)
  | '\x27' :: rest => some (String.ofList gathered.reverse, rest)
  | character :: rest =>
    if isPrintable character then readLiteral (character :: gathered) rest else none
  | [] => none

def readLiteralLines (gathered : List Char) : List Char → Option (String × List Char)
  | '\x27' :: '\x27' :: '\x27' :: '\x27' :: '\x27' :: rest =>
    some (String.ofList ('\x27' :: '\x27' :: gathered).reverse, rest)
  | '\x27' :: '\x27' :: '\x27' :: '\x27' :: rest =>
    some (String.ofList ('\x27' :: gathered).reverse, rest)
  | '\x27' :: '\x27' :: '\x27' :: rest => some (String.ofList gathered.reverse, rest)
  | '\r' :: '\n' :: rest => readLiteralLines ('\n' :: gathered) rest
  | character :: rest =>
    if character = '\n' || isPrintable character then readLiteralLines (character :: gathered) rest
    else none
  | [] => none

def dropFirstLineEnd : List Char → List Char
  | '\n' :: rest => rest
  | '\r' :: '\n' :: rest => rest
  | text => text

def readString : List Char → Option (String × List Char)
  | '"' :: '"' :: '"' :: rest => readBasicLines false [] (dropFirstLineEnd rest)
  | '"' :: rest => readBasic [] rest
  | '\x27' :: '\x27' :: '\x27' :: rest => readLiteralLines [] (dropFirstLineEnd rest)
  | '\x27' :: rest => readLiteral [] rest
  | _ => none

/-- The digits of a number without the underscores, each of which stands between two digits. -/
def joinDigits? (isDigit : Char → Bool) : List Char → Option (List Char)
  | [] => none
  | [digit] => if isDigit digit then some [digit] else none
  | digit :: '_' :: rest =>
    if isDigit digit then (joinDigits? isDigit rest).map (digit :: ·) else none
  | digit :: rest => if isDigit digit then (joinDigits? isDigit rest).map (digit :: ·) else none

/-- The digits of a decimal number, which starts with no zero that could be left out. -/
def wholeDigits? (text : List Char) : Option (List Char) :=
  (joinDigits? Char.isDigit text).filter fun digits => digits.length = 1 || digits.head? ≠ some '0'

def splitSign : List Char → List Char × List Char
  | '+' :: rest => ([], rest)
  | '-' :: rest => (['-'], rest)
  | text => ([], text)

def wide? (value : Int) : Option Setting :=
  if -0x8000000000000000 ≤ value && value ≤ 0x7FFFFFFFFFFFFFFF then
    some (.int (Int64.ofInt value))
  else none

def basedInteger? (base : Nat) (text : List Char) : Option Setting := do
  let isDigit (character : Char) : Bool :=
    match Text.hexValue? character with
    | some digit => digit < base
    | none => false
  let digits ← joinDigits? isDigit text
  let values ← digits.mapM Text.hexValue?
  wide? (values.foldl (fun value digit => base * value + digit) 0 : Nat)

def decimalInteger? (text : List Char) : Option Setting := do
  let (sign, digits) := splitSign text
  let digits ← wholeDigits? digits
  let value ← Integer.read? true (sign ++ digits)
  wide? value

def exponentText? (text : List Char) : Option (List Char) :=
  let (sign, digits) := splitSign text
  (joinDigits? Char.isDigit digits).map fun digits => 'e' :: sign ++ digits

def floatText? (text : List Char) : Option (List Char) := do
  let isMark (character : Char) : Bool := character = 'e' || character = 'E'
  let mantissa := text.takeWhile fun character => !isMark character
  let exponent ←
    match text.dropWhile fun character => !isMark character with
    | [] => some []
    | _ :: rest => exponentText? rest
  match Text.splitOnce '.' mantissa with
  | some (whole, fraction) =>
    let whole ← wholeDigits? whole
    let fraction ← joinDigits? Char.isDigit fraction
    return whole ++ '.' :: fraction ++ exponent
  | none =>
    if exponent.isEmpty then none
    else (wholeDigits? mantissa).map fun whole => whole ++ exponent

/-- A number with a fraction or an exponent, or one of the words for what is no finite number. A
number beyond the greatest is refused. -/
def float? (text : List Char) : Option Setting :=
  let (sign, rest) := splitSign text
  if rest == ['i', 'n', 'f'] then some (.float (Binary.infinity !sign.isEmpty))
  else if rest == ['n', 'a', 'n'] then some (.float .nan)
  else do
    let digits ← floatText? rest
    let value : Double ← Binary.read? (sign ++ digits)
    if value.equal (Binary.infinity false) then none else some (.float value)

def digits? (text : List Char) : Option Nat := Integer.readDigits? text

def twoDigits? (greatest : Nat) (a b : Char) : Option (List Char) :=
  (digits? [a, b]).bind fun value => if value ≤ greatest then some [a, b] else none

def daysOfMonth (year month : Nat) : Nat :=
  let leap := year % 4 = 0 && (year % 100 ≠ 0 || year % 400 = 0)
  if month = 2 then (if leap then 29 else 28)
  else if [4, 6, 9, 11].contains month then 30
  else 31

def readDate : List Char → Option (List Char × List Char)
  | y :: e :: a :: r :: '-' :: m :: n :: '-' :: d :: f :: rest => do
    let year ← digits? [y, e, a, r]
    let month ← digits? [m, n]
    let day ← digits? [d, f]
    if 1 ≤ month && month ≤ 12 && 1 ≤ day && day ≤ daysOfMonth year month then
      some ([y, e, a, r, '-', m, n, '-', d, f], rest)
    else none
  | _ => none

/-- The digits of a fraction of a second: at most nine, and none that could be left out. -/
def fractionText (digits : List Char) : List Char :=
  let kept := ((digits.take 9).reverse.dropWhile (· = '0')).reverse
  if kept.isEmpty then [] else '.' :: kept

def readTime (lastHour : Nat) : List Char → Option (List Char × List Char)
  | h :: o :: ':' :: m :: i :: ':' :: s :: e :: rest => do
    let hour ← twoDigits? lastHour h o
    let minute ← twoDigits? 59 m i
    let second ← twoDigits? 60 s e
    let whole := hour ++ ':' :: minute ++ ':' :: second
    match rest with
    | '.' :: rest =>
      let fraction := rest.takeWhile Char.isDigit
      if fraction.isEmpty then none
      else some (whole ++ fractionText fraction, rest.dropWhile Char.isDigit)
    | rest => some (whole, rest)
  | _ => none

def readOffset : List Char → Option (List Char × List Char)
  | 'Z' :: rest | 'z' :: rest => some (['Z'], rest)
  | sign :: h :: o :: ':' :: m :: i :: rest =>
    if sign = '+' || sign = '-' then do
      let hour ← twoDigits? 23 h o
      let minute ← twoDigits? 59 m i
      let shown := if hour == ['0', '0'] && minute == ['0', '0'] then '+' else sign
      some (shown :: hour ++ ':' :: minute, rest)
    else some ([], sign :: h :: o :: ':' :: m :: i :: rest)
  | rest => some ([], rest)

/-- Reads a date, a time or both. A blank may stand between them if a time follows it. -/
def readMoment (text : List Char) : Option (Setting × List Char) :=
  match readDate text with
  | none => (readTime 23 text).map fun (time, rest) => (.text (String.ofList time), rest)
  | some (date, rest) =>
    let withTime (rest : List Char) : Option (Setting × List Char) := do
      let (time, rest) ← readTime 23 rest
      let (offset, rest) ← readOffset rest
      some (.text (String.ofList (date ++ 'T' :: time ++ offset)), rest)
    match rest with
    | 'T' :: rest | 't' :: rest => withTime rest
    | ' ' :: digit :: rest =>
      if digit.isDigit then withTime (digit :: rest)
      else some (.text (String.ofList date), ' ' :: digit :: rest)
    | rest => some (.text (String.ofList date), rest)

def paddedDigits (number : Nat) : List Char :=
  if number < 10 then '0' :: Nat.toDigits 10 number else Nat.toDigits 10 number

/-- The offset at the end of a text: none, the universal time, or hours and minutes that are a day
at most, with as many minutes as an hour has when they are shown. -/
def offsetText? : List Char → Option (List Char)
  | [] => some []
  | ['Z'] | ['z'] => some ['Z']
  | [sign, h, o, ':', m, i] => do
    let total := 60 * (← digits? [h, o]) + (← digits? [m, i])
    if 24 * 60 < total then none
    else if sign = '+' || sign = '-' then
      let shown := if total = 0 then '+' else sign
      some (shown :: paddedDigits (total / 60) ++ ':' :: paddedDigits (total % 60))
    else none
  | _ => none

/-- A date, a time or both that are written in a text of their own. The day may have a twenty-fourth
hour there. -/
def momentText? (text : List Char) : Option String :=
  match readDate text with
  | none =>
    (readTime 24 text).bind fun (time, rest) =>
      if rest.isEmpty then some (String.ofList time) else none
  | some (date, []) => some (String.ofList date)
  | some (date, separator :: rest) =>
    if separator = 'T' || separator = 't' || separator = ' ' then do
      let (time, rest) ← readTime 24 rest
      let offset ← offsetText? rest
      some (String.ofList (date ++ 'T' :: time ++ offset))
    else none

def isWordChar (character : Char) : Bool :=
  character.isAlphanum || ['_', '+', '-', '.'].contains character

def word? (word : List Char) : Option Setting :=
  match word with
  | ['t', 'r', 'u', 'e'] => some (.bool true)
  | ['f', 'a', 'l', 's', 'e'] => some (.bool false)
  | '0' :: 'x' :: digits => basedInteger? 16 digits
  | '0' :: 'o' :: digits => basedInteger? 8 digits
  | '0' :: 'b' :: digits => basedInteger? 2 digits
  | word => (decimalInteger? word).or (float? word)

def readScalar (text : List Char) : Option (Setting × List Char) :=
  match readMoment text with
  | some moment => some moment
  | none => (word? (text.takeWhile isWordChar)).map fun value => (value, text.dropWhile isWordChar)

end Toml
end RequestDispatch
