/-!
UTF-8. A strict reading accepts exactly the sequences of RFC 3629; a lossy reading puts the
replacement character in place of each longest piece that begins a sequence and does not finish it.
-/

namespace RequestDispatch
namespace Text

def utf8Bytes (text : String) : List UInt8 := text.toUTF8.toList

def isTail (byte : UInt8) : Bool := 0x80 ≤ byte && byte ≤ 0xBF

/-- The second byte a sequence may have after its first one, and the number of bytes after that;
nothing for a byte that begins no sequence of two or more. -/
def sequenceHead (first : UInt8) : Option ((UInt8 → Bool) × Nat) :=
  if 0xC2 ≤ first && first ≤ 0xDF then some (isTail, 0)
  else if first == 0xE0 then some (fun byte => 0xA0 ≤ byte && byte ≤ 0xBF, 1)
  else if first == 0xED then some (fun byte => 0x80 ≤ byte && byte ≤ 0x9F, 1)
  else if 0xE1 ≤ first && first ≤ 0xEF then some (isTail, 1)
  else if first == 0xF0 then some (fun byte => 0x90 ≤ byte && byte ≤ 0xBF, 2)
  else if 0xF1 ≤ first && first ≤ 0xF3 then some (isTail, 2)
  else if first == 0xF4 then some (fun byte => 0x80 ≤ byte && byte ≤ 0x8F, 2)
  else none

def leadBits (length : Nat) (first : UInt8) : Nat :=
  if length = 2 then first.toNat % 0x20
  else if length = 3 then first.toNat % 0x10
  else first.toNat % 0x08

def sequenceChar : List UInt8 → Char
  | [] => '\x00'
  | first :: tails =>
    Char.ofNat (tails.foldl (fun value byte => value * 64 + byte.toNat % 64)
      (leadBits (tails.length + 1) first))

/-- The first character of a byte string and how many bytes after the first it takes; no character
for a piece that is not well formed. -/
def nextChar (first : UInt8) (rest : List UInt8) : Option Char × Nat :=
  if first < 0x80 then (some (Char.ofNat first.toNat), 0)
  else
    match sequenceHead first with
    | none => (none, 0)
    | some (second, more) =>
      match rest with
      | [] => (none, 0)
      | next :: others =>
        if second next then
          let tails := (others.take more).takeWhile isTail
          if tails.length = more then (some (sequenceChar (first :: next :: tails)), 1 + more)
          else (none, 1 + tails.length)
        else (none, 0)

/-- The characters and ill-formed pieces of a byte string, in order, after the bytes that still
belong to the piece before. -/
def decodePieces : Nat → List UInt8 → List (Option Char)
  | _, [] => []
  | skipped + 1, _ :: rest => decodePieces skipped rest
  | 0, first :: rest =>
    let piece := nextChar first rest
    piece.1 :: decodePieces piece.2 rest

def decodeUtf8? (bytes : List UInt8) : Option String :=
  ((decodePieces 0 bytes).mapM id).map String.ofList

def decodeUtf8Lossy (bytes : List UInt8) : String :=
  String.ofList ((decodePieces 0 bytes).map fun piece => piece.getD '\uFFFD')

end Text
end RequestDispatch
