import RequestDispatch.Text.Percent
import RequestDispatch.Proofs.Text.Hex
import RequestDispatch.Proofs.Text.Utf8

/-!
Percent-encoded texts. The main statement is `decode_segment_encoded`: however the bytes of a text
are encoded, decoding gives the text back. What is encoded is ASCII and holds no slash.
-/

namespace RequestDispatch
namespace Text

/-- Bytes as they may stand in a path segment: each escaped, with digits in either case, or for
itself if it is unreserved. -/
inductive Encodes : List UInt8 → List Char → Prop
  | nil : Encodes [] []
  | plain {byte : UInt8} {bytes : List UInt8} {text : List Char} :
      isUnreserved byte = true → Encodes bytes text →
        Encodes (byte :: bytes) (Char.ofUInt8 byte :: text)
  | escaped {byte : UInt8} {high low : Char} {bytes : List UInt8} {text : List Char} :
      hexByte? high low = some byte → Encodes bytes text →
        Encodes (byte :: bytes) ('%' :: high :: low :: text)

theorem unreserved_bounds {byte : UInt8} (unreserved : isUnreserved byte = true) :
    (Char.ofUInt8 byte).toNat < 0x80 ∧ Char.ofUInt8 byte ≠ '/' ∧ Char.ofUInt8 byte ≠ '%' := by
  simp only [isUnreserved, Bool.or_eq_true, List.contains_iff_mem] at unreserved
  rcases unreserved with alphanum | mark
  · exact alphanum_bounds alphanum
  · generalize Char.ofUInt8 byte = character at mark
    simp only [List.mem_cons, List.not_mem_nil, or_false] at mark
    rcases mark with rfl | rfl | rfl | rfl <;> decide

theorem encoded_character {bytes : List UInt8} {text : List Char} (encoded : Encodes bytes text) :
    ∀ character ∈ text, character.toNat < 0x80 ∧ character ≠ '/' := by
  induction encoded with
  | nil => simp
  | plain unreserved _ ih =>
      have bounds := unreserved_bounds unreserved
      exact List.forall_mem_cons.2 ⟨⟨bounds.1, bounds.2.1⟩, ih⟩
  | escaped read _ ih =>
      have digits := hex_byte_digits read
      have high := alphanum_bounds digits.1
      have low := alphanum_bounds digits.2
      simp only [List.forall_mem_cons]
      exact ⟨by decide, ⟨high.1, high.2.1⟩, ⟨low.1, low.2.1⟩, ih⟩

theorem encoded_ne_nil {bytes : List UInt8} {text : List Char} (encoded : Encodes bytes text)
    (nonempty : bytes ≠ []) : text ≠ [] := by
  cases encoded with
  | nil => exact absurd rfl nonempty
  | plain => simp
  | escaped => simp

theorem utf8_bytes_ascii {text : List Char} (ascii : ∀ character ∈ text, character.toNat < 0x80) :
    utf8Bytes (String.ofList text) = text.map fun character => UInt8.ofNat character.toNat := by
  rw [utf8_bytes_eq, String.toList_ofList]
  induction text with
  | nil => rfl
  | cons character text ih =>
      simp only [List.forall_mem_cons] at ascii
      have single : String.utf8EncodeChar character = [UInt8.ofNat character.toNat] :=
        if_pos (Nat.le_of_lt_succ ascii.1)
      rw [List.flatMap_cons, single, ih ascii.2, List.map_cons, List.singleton_append]

theorem of_byte_ascii {character : Char} (ascii : character.toNat < 0x80) :
    Char.ofUInt8 (UInt8.ofNat character.toNat) = character := by
  have value : (UInt8.ofNat character.toNat).toNat = character.toNat :=
    UInt8.toNat_ofNat_of_lt' (by simp [UInt8.size]; omega)
  apply Char.ext
  apply UInt32.toNat_inj.1
  exact (UInt8.toNat_toUInt32 _).trans value

theorem byte_of_byte (byte : UInt8) : UInt8.ofNat (Char.ofUInt8 byte).toNat = byte := by
  have value : (Char.ofUInt8 byte).toNat = byte.toNat := UInt8.toNat_toUInt32 byte
  rw [value, UInt8.ofNat_toNat]

theorem percent_decode_plain {byte : UInt8} (differs : byte ≠ 0x25) (rest : List UInt8) :
    percentDecode (byte :: rest) = byte :: percentDecode rest := by
  match rest with
  | [] => rfl
  | [_] => simp [percentDecode]
  | high :: low :: rest => simp [percentDecode, differs]

theorem percent_decode_encoded {bytes : List UInt8} {text : List Char}
    (encoded : Encodes bytes text) :
    percentDecode (text.map fun character => UInt8.ofNat character.toNat) = bytes := by
  induction encoded with
  | nil => rfl
  | @plain byte _ _ unreserved _ ih =>
      have differs : byte ≠ 0x25 := by
        rintro rfl
        exact absurd rfl (unreserved_bounds unreserved).2.2
      rw [List.map_cons, byte_of_byte, percent_decode_plain differs, ih]
  | escaped read _ ih =>
      have digits := hex_byte_digits read
      have high := of_byte_ascii (alphanum_bounds digits.1).1
      have low := of_byte_ascii (alphanum_bounds digits.2).1
      simp only [List.map_cons, percentDecode, high, low, read, ih]
      rfl

theorem decode_segment_encoded {value : String} {text : List Char}
    (encoded : Encodes (utf8Bytes value) text) : decodeSegment (String.ofList text) = value := by
  have ascii : ∀ character ∈ text, character.toNat < 0x80 := by
    intro character member
    exact (encoded_character encoded character member).1
  rw [decodeSegment, utf8_bytes_ascii ascii, percent_decode_encoded encoded, decode_utf8_bytes,
    Option.getD_some]

end Text
end RequestDispatch
