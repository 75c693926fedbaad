import RequestDispatch.Text.UnprintableTable

/-!
Quoted texts, as diagnostics show them: between double quotes, with controls, unprintable
characters, the quote and the backslash written as escapes.
-/

namespace RequestDispatch
namespace Text

def hexDigits (number : Nat) : List Char := Nat.toDigits 16 number

def isPrintable (character : Char) : Bool :=
  let code := character.toNat
  if code < 0x80 then 0x20 ≤ code && code < 0x7F
  else !unprintableRanges.any fun range => range.1 ≤ code && code ≤ range.2

def quoteChar (quote character : Char) : List Char :=
  if character = '\x00' then ['\\', '0']
  else if character = '\t' then ['\\', 't']
  else if character = '\r' then ['\\', 'r']
  else if character = '\n' then ['\\', 'n']
  else if character = '\\' then ['\\', '\\']
  else if character = quote then ['\\', quote]
  else if isPrintable character then [character]
  else ['\\', 'u', '\x7b'] ++ hexDigits character.toNat ++ ['\x7d']

def quoted (text : String) : String :=
  String.ofList ('"' :: text.toList.flatMap (quoteChar '"') ++ ['"'])

def quotedChar (character : Char) : String :=
  String.ofList ('\x27' :: quoteChar '\x27' character ++ ['\x27'])

def quotedList (texts : List String) : String :=
  "[" ++ ", ".intercalate (texts.map quoted) ++ "]"

end Text
end RequestDispatch
