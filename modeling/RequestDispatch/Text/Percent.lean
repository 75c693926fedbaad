import RequestDispatch.Text.Hex
import RequestDispatch.Text.Split

/-!
Percent encoding of path segments and the form encoding of query strings. A percent sign that two
hexadecimal digits do not follow stands for itself.
-/

namespace RequestDispatch
namespace Text

def percentDecode : List UInt8 → List UInt8
  | [] => []
  | [byte] => [byte]
  | [byte, next] => [byte, next]
  | byte :: high :: low :: rest =>
    match byte == 0x25, hexByte? (Char.ofUInt8 high) (Char.ofUInt8 low) with
    | true, some decoded => decoded :: percentDecode rest
    | _, _ => byte :: percentDecode (high :: low :: rest)

def isUnreserved (byte : UInt8) : Bool :=
  let character := Char.ofUInt8 byte
  character.isAlphanum || ['-', '.', '_', '~'].contains character

def percentByte (byte : UInt8) : List Char := '%' :: (hexPair byte).map Char.toUpper

/-- The text with every byte encoded that is not unreserved. -/
def percentEncode (text : String) : String :=
  String.ofList ((utf8Bytes text).flatMap fun byte =>
    if isUnreserved byte then [Char.ofUInt8 byte] else percentByte byte)

/-- The decoded text, or the text itself if what it encodes is not well-formed. -/
def decodeSegment (raw : String) : String :=
  (decodeUtf8? (percentDecode (utf8Bytes raw))).getD raw

/-- A name or value of a query string: plus signs are blanks, ill-formed bytes are replaced. -/
def decodeFormPart (part : List Char) : String :=
  let spaced := part.map fun character => if character = '+' then ' ' else character
  decodeUtf8Lossy (percentDecode (utf8Bytes (String.ofList spaced)))

def decodeFormField (field : List Char) : String × String :=
  match splitOnce '=' field with
  | some (name, value) => (decodeFormPart name, decodeFormPart value)
  | none => (decodeFormPart field, "")

/-- The fields of a query string, in order; empty ones are left out. -/
def parseForm (query : List Char) : List (String × String) :=
  ((splitOn '&' query).filter fun field => !field.isEmpty).map decodeFormField

end Text
end RequestDispatch
