import RequestDispatch.Text.CaseTable

/-!
Upper and lower case. The ASCII operations touch the letters A to Z alone; the others follow the
Unicode character database, where one character may become several.
-/

namespace RequestDispatch
namespace Text

def mapCase (runs : List CaseRun) (expansions : List (Nat × List Nat)) (character : Char) :
    List Char :=
  match expansions.find? (fun entry => entry.1 == character.toNat) with
  | some entry => entry.2.map Char.ofNat
  | none =>
    match runs.find? (fun run => run.holds character.toNat) with
    | some run => [Char.ofNat (character.toNat + run.shift).toNat]
    | none => [character]

def lowerChar (character : Char) : List Char :=
  if character.toNat < 0x80 then [character.toLower]
  else mapCase lowerRuns lowerExpansions character

def upperChar (character : Char) : List Char :=
  if character.toNat < 0x80 then [character.toUpper]
  else mapCase upperRuns upperExpansions character

def liesIn (ranges : List (Nat × Nat)) (character : Char) : Bool :=
  ranges.any fun range => range.1 ≤ character.toNat && character.toNat ≤ range.2

def isCased (character : Char) : Bool := liesIn casedRanges character

/-- A mark that does not end a word when the form of a sigma is chosen. -/
def isCaseIgnorable (character : Char) : Bool := liesIn caseIgnorableRanges character

/-- A sigma ends a word when a letter stands before it and none after it. -/
def sigmaEndsWord (before after : List Char) : Bool :=
  ((before.dropWhile isCaseIgnorable).head?.any isCased) &&
    !((after.dropWhile isCaseIgnorable).head?.any isCased)

/-- Lower case of a text whose earlier characters are given in reverse. -/
def lowerFrom (before : List Char) : List Char → List Char
  | [] => []
  | character :: rest =>
    let mapped :=
      if character = 'Σ' then [if sigmaEndsWord before rest then 'ς' else 'σ']
      else lowerChar character
    mapped ++ lowerFrom (character :: before) rest

def lower (text : String) : String := String.ofList (lowerFrom [] text.toList)

def upper (text : String) : String := String.ofList (text.toList.flatMap upperChar)

def lowerAscii (text : String) : String := String.ofList (text.toList.map Char.toLower)

def sameIgnoringAsciiCase (left right : String) : Bool :=
  left.toList.map Char.toLower == right.toList.map Char.toLower

def lowerFirst (text : String) : String :=
  match text.toList with
  | [] => ""
  | first :: rest => String.ofList (lowerChar first ++ rest)

def upperFirst (text : String) : String :=
  match text.toList with
  | [] => ""
  | first :: rest => String.ofList (upperChar first ++ rest)

end Text
end RequestDispatch
