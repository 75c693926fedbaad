import RequestDispatch.Text.Utf8
import Mathlib.Data.List.TakeWhile
import Mathlib.Tactic.SplitIfs

/-!
Reading back what UTF-8 writes. The main statement is `decode_utf8_bytes`: the strict reading of
the bytes of a text is the text.
-/

namespace RequestDispatch
namespace Text

theorem toList_loop (bytes : ByteArray) (index : Nat) (read : List UInt8) :
    ByteArray.toList.loop bytes index read = read.reverse ++ bytes.data.toList.drop index := by
  fun_induction ByteArray.toList.loop bytes index read with
  | case1 index read inside ih =>
      have next : bytes.data.toList.drop index =
          bytes.get! index :: bytes.data.toList.drop (index + 1) := by
        rw [List.drop_eq_getElem_cons (by simpa using inside)]
        simp [ByteArray.get!, inside]
      rw [ih, next, List.reverse_cons, List.append_assoc, List.singleton_append]
  | case2 index read outside =>
      have done : bytes.data.toList.drop index = [] :=
        List.drop_eq_nil_iff.2 (by simpa using outside)
      rw [done, List.append_nil]

theorem utf8_bytes_eq (text : String) :
    utf8Bytes text = text.toList.flatMap String.utf8EncodeChar := by
  have bytes : text.toUTF8 = (text.toList.flatMap String.utf8EncodeChar).toByteArray := by
    rw [String.toUTF8_eq_toByteArray, ← String.utf8Encode_toList, List.utf8Encode]
  rw [utf8Bytes, ByteArray.toList, toList_loop, bytes, List.toList_data_toByteArray]
  rfl

theorem sequence_head_two (first : UInt8) {next : UInt8} (lower : 0xC2 ≤ first.toNat)
    (upper : first.toNat ≤ 0xDF) (tail : isTail next = true) :
    ∃ second, sequenceHead first = some (second, 0) ∧ second next = true := by
  refine ⟨isTail, ?_, tail⟩
  simp [sequenceHead, UInt8.le_iff_toNat_le, lower, upper]

theorem sequence_head_three (first : UInt8) {next : UInt8} (lower : 0xE0 ≤ first.toNat)
    (upper : first.toNat ≤ 0xEF) (tail : isTail next = true)
    (notShort : first.toNat = 0xE0 → 0xA0 ≤ next.toNat)
    (notSurrogate : first.toNat = 0xED → next.toNat ≤ 0x9F) :
    ∃ second, sequenceHead first = some (second, 1) ∧ second next = true := by
  simp only [isTail, UInt8.le_iff_toNat_le, Bool.and_eq_true, decide_eq_true_eq] at tail
  unfold sequenceHead
  simp only [UInt8.le_iff_toNat_le, Bool.and_eq_true, decide_eq_true_eq, beq_iff_eq,
    ← UInt8.toNat_inj]
  split_ifs <;> simp [isTail, UInt8.le_iff_toNat_le] at * <;> omega

theorem sequence_head_four (first : UInt8) {next : UInt8} (lower : 0xF0 ≤ first.toNat)
    (upper : first.toNat ≤ 0xF4) (tail : isTail next = true)
    (notShort : first.toNat = 0xF0 → 0x90 ≤ next.toNat)
    (notBeyond : first.toNat = 0xF4 → next.toNat ≤ 0x8F) :
    ∃ second, sequenceHead first = some (second, 2) ∧ second next = true := by
  simp only [isTail, UInt8.le_iff_toNat_le, Bool.and_eq_true, decide_eq_true_eq] at tail
  unfold sequenceHead
  simp only [UInt8.le_iff_toNat_le, Bool.and_eq_true, decide_eq_true_eq, beq_iff_eq,
    ← UInt8.toNat_inj]
  split_ifs <;> simp [isTail, UInt8.le_iff_toNat_le] at * <;> omega

/-- A sequence that begins well and goes on with tails is one character, whatever follows. -/
theorem next_char_sequence {first next : UInt8} {second : UInt8 → Bool} (tails : List UInt8)
    (beyond : 0x80 ≤ first.toNat) (head : sequenceHead first = some (second, tails.length))
    (fits : second next = true) (continues : ∀ byte ∈ tails, isTail byte = true)
    (rest : List UInt8) :
    nextChar first (next :: (tails ++ rest)) =
      (some (sequenceChar (first :: next :: tails)), (next :: tails).length) := by
  have notAscii : ¬first < 0x80 := by
    rw [UInt8.lt_iff_toNat_lt]
    simpa using beyond
  have taken : tails.takeWhile isTail = tails := List.takeWhile_eq_self_iff.2 continues
  simp [nextChar, notAscii, head, fits, taken, Nat.add_comm]

theorem tail_byte (code : Nat) :
    isTail (UInt8.ofNat (code % 0x40 + 0x80)) = true ∧
      (UInt8.ofNat (code % 0x40 + 0x80)).toNat = code % 0x40 + 0x80 := by
  have value : (UInt8.ofNat (code % 0x40 + 0x80)).toNat = code % 0x40 + 0x80 :=
    UInt8.toNat_ofNat_of_lt' (by simp [UInt8.size]; omega)
  refine ⟨?_, value⟩
  simp only [isTail, UInt8.le_iff_toNat_le, value, Bool.and_eq_true, decide_eq_true_eq]
  constructor
  · simp
  · have bound := Nat.mod_lt code (show 0 < 0x40 by decide)
    simp
    omega

theorem next_char_encode (character : Char) (rest : List UInt8) :
    ∃ first tails, String.utf8EncodeChar character = first :: tails ∧
      nextChar first (tails ++ rest) = (some character, tails.length) := by
  have valid : character.val.toNat.isValidChar := character.valid
  have same : Char.ofNat character.val.toNat = character := Char.ofNat_toNat character
  unfold String.utf8EncodeChar
  generalize character.val.toNat = code at valid same
  by_cases one : code ≤ 0x7F
  · have value : (UInt8.ofNat code).toNat = code :=
      UInt8.toNat_ofNat_of_lt' (by simp [UInt8.size]; omega)
    refine ⟨UInt8.ofNat code, [], if_pos one, ?_⟩
    have ascii : UInt8.ofNat code < 0x80 := by
      rw [UInt8.lt_iff_toNat_lt, value]
      simp
      omega
    simp [nextChar, ascii, value, same]
  by_cases two : code ≤ 0x7FF
  · have value : (UInt8.ofNat (code / 64 % 0x20 + 0xC0)).toNat = code / 64 % 0x20 + 0xC0 :=
      UInt8.toNat_ofNat_of_lt' (by simp [UInt8.size]; omega)
    obtain ⟨last, lastValue⟩ := tail_byte code
    obtain ⟨second, head, fits⟩ := sequence_head_two
      (UInt8.ofNat (code / 64 % 0x20 + 0xC0)) (by omega) (by omega) last
    refine ⟨_, _, (if_neg one).trans (if_pos two), ?_⟩
    rw [List.cons_append, next_char_sequence [] (by omega) head fits (by simp) rest]
    have whole : (code / 64 % 0x20 + 0xC0) % 0x20 * 64 + (code % 0x40 + 0x80) % 64 = code := by
      omega
    rw [← lastValue, ← value] at whole
    simp only [sequenceChar, leadBits, List.length_cons, List.length_nil, List.foldl_cons,
      List.foldl_nil, Nat.reduceAdd, Nat.reduceEqDiff, if_true, if_false]
    rw [whole, same]
  by_cases three : code ≤ 0xFFFF
  · have value : (UInt8.ofNat (code / 4096 % 0x10 + 0xE0)).toNat = code / 4096 % 0x10 + 0xE0 :=
      UInt8.toNat_ofNat_of_lt' (by simp [UInt8.size]; omega)
    obtain ⟨middle, middleValue⟩ := tail_byte (code / 64)
    obtain ⟨last, lastValue⟩ := tail_byte code
    obtain ⟨second, head, fits⟩ := sequence_head_three
      (UInt8.ofNat (code / 4096 % 0x10 + 0xE0)) (by omega) (by omega) middle (by omega)
      (by rcases valid with low | high <;> omega)
    refine ⟨_, _, (if_neg one).trans ((if_neg two).trans (if_pos three)), ?_⟩
    rw [List.cons_append, next_char_sequence [_] (by omega) head fits
      (by simpa using last) rest]
    have whole : ((code / 4096 % 0x10 + 0xE0) % 0x10 * 64 + (code / 64 % 0x40 + 0x80) % 64) * 64 +
        (code % 0x40 + 0x80) % 64 = code := by
      omega
    rw [← lastValue, ← middleValue, ← value] at whole
    simp only [sequenceChar, leadBits, List.length_cons, List.length_nil, List.foldl_cons,
      List.foldl_nil, Nat.reduceAdd, Nat.reduceEqDiff, if_true, if_false]
    rw [whole, same]
  · have value : (UInt8.ofNat (code / 262144 % 0x08 + 0xF0)).toNat = code / 262144 % 0x08 + 0xF0 :=
      UInt8.toNat_ofNat_of_lt' (by simp [UInt8.size]; omega)
    have bound : code < 0x110000 := by rcases valid with low | high <;> omega
    obtain ⟨middle, middleValue⟩ := tail_byte (code / 4096)
    obtain ⟨later, laterValue⟩ := tail_byte (code / 64)
    obtain ⟨last, lastValue⟩ := tail_byte code
    obtain ⟨second, head, fits⟩ := sequence_head_four
      (UInt8.ofNat (code / 262144 % 0x08 + 0xF0)) (by omega) (by omega) middle (by omega)
      (by omega)
    refine ⟨_, _, (if_neg one).trans ((if_neg two).trans (if_neg three)), ?_⟩
    rw [List.cons_append, next_char_sequence [_, _] (by omega) head fits
      (List.forall_mem_cons.2 ⟨later, by simpa using last⟩) rest]
    have whole : (((code / 262144 % 0x08 + 0xF0) % 0x08 * 64 +
        (code / 4096 % 0x40 + 0x80) % 64) * 64 + (code / 64 % 0x40 + 0x80) % 64) * 64 +
        (code % 0x40 + 0x80) % 64 = code := by
      omega
    rw [← lastValue, ← laterValue, ← middleValue, ← value] at whole
    simp only [sequenceChar, leadBits, List.length_cons, List.length_nil, List.foldl_cons,
      List.foldl_nil, Nat.reduceAdd, Nat.reduceEqDiff, if_false]
    rw [whole, same]

theorem decode_pieces_skip (skipped rest : List UInt8) :
    decodePieces skipped.length (skipped ++ rest) = decodePieces 0 rest := by
  induction skipped with
  | nil => rfl
  | cons byte skipped ih => exact ih

theorem decode_pieces_encode (characters : List Char) :
    decodePieces 0 (characters.flatMap String.utf8EncodeChar) = characters.map some := by
  induction characters with
  | nil => rfl
  | cons character characters ih =>
      obtain ⟨first, tails, encoded, read⟩ :=
        next_char_encode character (characters.flatMap String.utf8EncodeChar)
      rw [List.flatMap_cons, encoded, List.cons_append, decodePieces, read]
      simp only [decode_pieces_skip, ih, List.map_cons]

theorem decode_utf8_bytes (text : String) : decodeUtf8? (utf8Bytes text) = some text := by
  have read (characters : List Char) : (characters.map some).mapM id = some characters := by
    induction characters with
    | nil => rfl
    | cons character characters ih => rw [List.map_cons, List.mapM_cons, ih]; rfl
  rw [decodeUtf8?, utf8_bytes_eq, decode_pieces_encode, read, Option.map_some,
    String.ofList_toList]

end Text
end RequestDispatch
