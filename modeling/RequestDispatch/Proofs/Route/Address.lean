import RequestDispatch.Proofs.Route.Capture
import RequestDispatch.Proofs.Text.Percent

/-!
Paths built from a template and values for its variables. Values and literals are encoded; if no
segment of the template holds two variables, such a path can be split in one way only, and the
pattern binds every variable to its value.
-/

namespace RequestDispatch

/-- Values encoded as path text, each followed by a literal. A path that is built so may use
either case for digits. -/
inductive Builds : List (String × List Char) → List Char → Prop
  | nil : Builds [] []
  | cons {value : String} {literal front spelled rest : List Char}
      {pieces : List (String × List Char)} :
      Text.Encodes (Text.utf8Bytes value) front → Spells literal spelled → Builds pieces rest →
        Builds ((value, literal) :: pieces) (front ++ (spelled ++ rest))

theorem escapes_no_slash {bytes : List UInt8} {text : List Char} (escaped : Escapes bytes text) :
    '/' ∉ text := by
  induction escaped with
  | nil => simp
  | cons read _ ih =>
      have digits := Text.hex_byte_digits read
      have high := (Text.alphanum_bounds digits.1).2.1
      have low := (Text.alphanum_bounds digits.2).2.1
      simp [high.symm, low.symm, ih]

/-- A slash is spelled by itself and by nothing else. -/
theorem spells_no_slash {literal text : List Char} (spells : Spells literal text)
    (absent : '/' ∉ literal) : '/' ∉ text := by
  induction spells with
  | nil => simp
  | plain _ _ ih =>
      simp only [List.mem_cons, not_or] at absent ⊢
      exact ⟨absent.1, ih absent.2⟩
  | escaped _ escapes _ ih =>
      simp only [List.mem_cons, not_or] at absent
      simp [escapes_no_slash escapes, ih absent.2]

theorem spells_length {literal text other : List Char} (spells : Spells literal text)
    (otherSpells : Spells literal other) : text.length = other.length := by
  have length := PathPattern.spelled_length (PathPattern.spelled_literal.2 spells)
  have otherLength := PathPattern.spelled_length (PathPattern.spelled_literal.2 otherSpells)
  exact length.trans otherLength.symm

theorem spells_append {front back text : List Char} (spells : Spells (front ++ back) text) :
    ∃ first second, text = first ++ second ∧ Spells front first ∧ Spells back second := by
  have fits := PathPattern.spelled_literal.2 spells
  rw [List.flatMap_append, PathPattern.spelled_append] at fits
  obtain ⟨first, second, rfl, firstFits, secondFits⟩ := fits
  exact ⟨first, second, rfl, PathPattern.spelled_literal.1 firstFits,
    PathPattern.spelled_literal.1 secondFits⟩

theorem spells_slash {back text : List Char} (spells : Spells ('/' :: back) text) :
    ∃ rest, text = '/' :: rest ∧ Spells back rest := by
  cases spells with
  | plain _ rest => exact ⟨_, rfl, rest⟩
  | escaped beyond => exact absurd beyond (by decide)

/-- Captured texts are the same in all splits of a path if all literals but the last hold a
slash: a variable ends before the first slash behind it. -/
theorem splits_unique {literals captures others : List (List Char)} {path : List Char}
    (slashes : ∀ literal ∈ literals.dropLast, '/' ∈ literal) (split : Splits literals captures path)
    (otherSplit : Splits literals others path) : captures = others := by
  induction split generalizing others with
  | nil =>
      cases otherSplit
      rfl
  | @cons literal capture spelled rest literals captures _ absent spells split ih =>
      generalize whole : capture ++ (spelled ++ rest) = path at otherSplit
      cases otherSplit with
      | @cons _ other otherSpelled otherRest _ others _ otherAbsent otherSpells otherSplit =>
      cases literals with
      | nil =>
          cases split
          cases otherSplit
          have parts := List.append_inj' whole (by simpa using spells_length spells otherSpells)
          rw [parts.1]
      | cons next literals =>
          have slash : '/' ∈ literal := slashes literal (by simp)
          obtain ⟨front, back, rfl, frontAbsent⟩ := List.eq_append_cons_of_mem slash
          obtain ⟨first, second, rfl, firstSpells, secondSpells⟩ := spells_append spells
          obtain ⟨otherFirst, otherSecond, rfl, otherFirstSpells, otherSecondSpells⟩ :=
            spells_append otherSpells
          obtain ⟨behind, rfl, behindSpells⟩ := spells_slash secondSpells
          obtain ⟨otherBehind, rfl, otherBehindSpells⟩ := spells_slash otherSecondSpells
          -- Both splits have their first slash in the same place.
          have divided : capture ++ first = other ++ otherFirst ∧
              '/' :: (behind ++ rest) = '/' :: (otherBehind ++ otherRest) := by
            apply TemplateReading.divide_unique '/'
            · simp [absent, spells_no_slash firstSpells frontAbsent]
            · simp [otherAbsent, spells_no_slash otherFirstSpells frontAbsent]
            · simp
            · simp
            · simpa using whole
          have captured := List.append_inj' divided.1 (spells_length firstSpells otherFirstSpells)
          have rests := List.append_inj (List.cons.inj divided.2).2
            (spells_length behindSpells otherBehindSpells)
          rw [captured.1, ih (fun literal member => slashes literal (by simp [member]))
            (rests.2 ▸ otherSplit)]

theorem prefix_segment {separator : Char} {front : List Char} (absent : separator ∉ front)
    (back : List Char) :
    ∃ segment others, Text.splitOn separator (front ++ back) = segment :: others ∧
      front <+: segment := by
  induction front with
  | nil =>
      obtain ⟨segment, others, found⟩ := List.exists_cons_of_ne_nil
        (Text.splitOn_ne_nil separator back)
      exact ⟨segment, others, found, List.nil_prefix⟩
  | cons character front ih =>
      simp only [List.mem_cons, not_or] at absent
      obtain ⟨segment, others, found, within⟩ := ih absent.2
      refine ⟨character :: segment, others, ?_, List.cons_prefix_cons.2 ⟨rfl, within⟩⟩
      rw [List.cons_append, Text.splitOn, if_neg (Ne.symm absent.1), found]

theorem infix_segment {separator : Char} {middle : List Char} (absent : separator ∉ middle)
    (front back : List Char) :
    ∃ segment ∈ Text.splitOn separator (front ++ middle ++ back), middle <:+: segment := by
  induction front with
  | nil =>
      obtain ⟨segment, others, found, within⟩ := prefix_segment absent back
      exact ⟨segment, by simp [found], within.isInfix⟩
  | cons character front ih =>
      obtain ⟨segment, member, within⟩ := ih
      simp only [List.cons_append, Text.splitOn]
      split
      · exact ⟨segment, List.mem_cons_of_mem _ member, within⟩
      · split
        · next found =>
          rw [found] at member
          cases member
        · next piece pieces found =>
          rw [found] at member
          rcases List.mem_cons.1 member with rfl | member
          · exact ⟨character :: segment, by simp, within.trans (List.suffix_cons _ _).isInfix⟩
          · exact ⟨segment, by simp [member], within⟩

namespace TemplateReading

/-- No segment of the template holds two variables. -/
def Separate (reading : TemplateReading) : Prop :=
  ∀ segment ∈ Text.splitOn '/' reading.text, segment.count '\x7b' ≤ 1

theorem written_infix {pieces : List (List Char × List Char)} {literal : List Char}
    (member : literal ∈ (pieces.map Prod.snd).dropLast) :
    ∃ piece ∈ pieces, piece.2 = literal ∧
      '\x7b' :: piece.1 ++ '\x7d' :: piece.2 ++ ['\x7b'] <:+: writtenPieces pieces := by
  induction pieces with
  | nil => simp at member
  | cons piece pieces ih =>
      cases pieces with
      | nil => simp at member
      | cons next pieces =>
          rw [List.map_cons, List.map_cons, List.dropLast_cons_cons, List.mem_cons] at member
          rcases member with rfl | member
          · refine ⟨piece, by simp, rfl, List.IsPrefix.isInfix ⟨next.1 ++ '\x7d' :: next.2 ++
              writtenPieces pieces, ?_⟩⟩
            simp [writtenPieces]
          · obtain ⟨other, inside, same, within⟩ := ih member
            refine ⟨other, by simp [inside], same, within.trans (List.IsSuffix.isInfix
              ⟨'\x7b' :: piece.1 ++ '\x7d' :: piece.2, ?_⟩)⟩
            simp [writtenPieces]

theorem separate_slashes {reading : TemplateReading} (proper : reading.Proper)
    (separate : reading.Separate) : ∀ literal ∈ reading.literals.dropLast, '/' ∈ literal := by
  intro literal member
  by_contra absent
  obtain ⟨piece, inside, rfl, front, back, whole⟩ := written_infix member
  have noSlash : '/' ∉ '\x7b' :: piece.1 ++ '\x7d' :: piece.2 ++ ['\x7b'] := by
    simp [absent, (proper.names piece inside).2.2]
  obtain ⟨segment, known, within⟩ := infix_segment noSlash (reading.leading ++ front) back
  have one : segment.count '\x7b' ≤ 1 := by
    apply separate
    rw [text, ← whole]
    simpa using known
  have two : 2 ≤ ('\x7b' :: piece.1 ++ '\x7d' :: piece.2 ++ ['\x7b']).count '\x7b' := by
    simp
    omega
  have more := within.sublist.count_le '\x7b'
  omega

theorem captures_unique {reading : TemplateReading} {captures others : List (List Char)}
    {path : List Char} (slashes : ∀ literal ∈ reading.literals.dropLast, '/' ∈ literal)
    (split : reading.Splits captures path) (otherSplit : reading.Splits others path) :
    captures = others := by
  obtain ⟨spelled, rest, rfl, spells, split⟩ := split
  obtain ⟨otherSpelled, otherRest, divided, otherSpells, otherSplit⟩ := otherSplit
  have parts := List.append_inj divided (spells_length spells otherSpells)
  exact splits_unique slashes split (parts.2 ▸ otherSplit)

def Builds (reading : TemplateReading) (value : String → String) (path : List Char) : Prop :=
  ∃ spelled rest, path = spelled ++ rest ∧ Spells reading.leading spelled ∧
    RequestDispatch.Builds (reading.pieces.map fun piece => (value (nameOf piece.1), piece.2)) rest

theorem builds_splits {pieces : List (String × List Char)} {path : List Char}
    (nonempty : ∀ piece ∈ pieces, piece.1 ≠ "") (built : RequestDispatch.Builds pieces path) :
    ∃ captures, RequestDispatch.Splits (pieces.map Prod.snd) captures path ∧
      (captures.map fun capture => Text.decodeSegment (String.ofList capture)) =
        pieces.map Prod.fst := by
  induction built with
  | nil => exact ⟨[], .nil, rfl⟩
  | @cons value literal front spelled rest pieces encoded spells _ ih =>
      simp only [List.forall_mem_cons] at nonempty
      obtain ⟨captures, split, decoded⟩ := ih nonempty.2
      have bytes : Text.utf8Bytes value ≠ [] := by
        intro none
        have read := Text.decode_utf8_bytes value
        rw [none] at read
        exact nonempty.1 (Option.some.inj read).symm
      have noSlash : '/' ∉ front := by
        intro member
        exact (Text.encoded_character encoded '/' member).2 rfl
      refine ⟨front :: captures,
        .cons (Text.encoded_ne_nil encoded bytes) noSlash spells split, ?_⟩
      rw [List.map_cons, Text.decode_segment_encoded encoded, decoded, List.map_cons]

/-- A literal with the digits of its escapes in upper case. -/
def literalAddress (literal : List Char) : List Char :=
  literal.flatMap fun character =>
    if character.toNat < 0x80 then [character]
    else (Text.utf8Bytes (String.ofList [character])).flatMap Text.percentByte

/-- The path for the given values with nothing escaped that need not be. -/
def address (reading : TemplateReading) (value : String → String) : String :=
  String.ofList (literalAddress reading.leading ++ reading.pieces.flatMap fun piece =>
    (Text.percentEncode (value (nameOf piece.1))).toList ++ literalAddress piece.2)

theorem escapes_upper (bytes : List UInt8) : Escapes bytes (bytes.flatMap Text.percentByte) := by
  induction bytes with
  | nil => exact .nil
  | cons byte bytes ih => exact .cons (Text.hex_byte_upper byte) ih

theorem literal_address_spells (literal : List Char) : Spells literal (literalAddress literal) := by
  induction literal with
  | nil => exact .nil
  | cons character literal ih =>
      rw [literalAddress, List.flatMap_cons]
      by_cases ascii : character.toNat < 0x80
      · rw [if_pos ascii]
        exact .plain ascii ih
      · rw [if_neg ascii]
        exact .escaped (Nat.le_of_not_lt ascii) (escapes_upper _) ih

theorem percent_encode_encodes (bytes : List UInt8) :
    Text.Encodes bytes (bytes.flatMap fun byte =>
      if Text.isUnreserved byte then [Char.ofUInt8 byte] else Text.percentByte byte) := by
  induction bytes with
  | nil => exact .nil
  | cons byte bytes ih =>
      rw [List.flatMap_cons]
      by_cases unreserved : Text.isUnreserved byte
      · rw [if_pos unreserved]
        exact .plain unreserved ih
      · rw [if_neg unreserved]
        exact .escaped (Text.hex_byte_upper byte) ih

theorem address_builds (reading : TemplateReading) (value : String → String) :
    reading.Builds value (reading.address value).toList := by
  refine ⟨literalAddress reading.leading, _, String.toList_ofList,
    literal_address_spells reading.leading, ?_⟩
  induction reading.pieces with
  | nil => exact .nil
  | cons piece pieces ih =>
      rw [List.flatMap_cons, List.append_assoc, Text.percentEncode, String.toList_ofList]
      exact .cons (percent_encode_encodes _) (literal_address_spells _) ih

end TemplateReading

/-- Where no segment of a template holds two variables, a path that is built from non-empty values
is matched, and the bindings are those values. -/
theorem bindings_of_address {template : String} {pattern : PathPattern}
    (accepted : PathPattern.compile template = .ok pattern)
    (separate : ∀ segment ∈ Text.splitOn '/' template.toList, segment.count '\x7b' ≤ 1) :
    ∃ reading : TemplateReading, reading.Proper ∧ reading.text = template.toList ∧
      reading.names.Nodup ∧ ∀ value : String → String, (∀ name ∈ reading.names, value name ≠ "") →
        reading.Builds value (reading.address value).toList ∧
          ∀ path : String, reading.Builds value path.toList →
            ∃ found, pattern.match? path = some found ∧
              found.bindings = reading.names.map fun name => (name, value name) := by
  obtain ⟨reading, proper, whole, rfl, distinct⟩ := TemplateReading.compile_reading accepted
  refine ⟨reading, proper, whole, distinct, ?_⟩
  intro value nonempty
  refine ⟨TemplateReading.address_builds reading value, ?_⟩
  rintro path ⟨spelled, rest, divided, spells, built⟩
  have filled : ∀ piece ∈ reading.pieces.map fun piece =>
      (value (TemplateReading.nameOf piece.1), piece.2), piece.1 ≠ "" := by
    intro filled member
    obtain ⟨piece, inside, rfl⟩ := List.mem_map.1 member
    exact nonempty _ (List.mem_map.2 ⟨piece, inside, rfl⟩)
  obtain ⟨captures, split, decoded⟩ := TemplateReading.builds_splits filled built
  rw [List.map_map] at split decoded
  have readingSplit : reading.Splits captures path.toList :=
    ⟨spelled, rest, divided, spells, split⟩
  obtain ⟨groups, captured⟩ :=
    Option.isSome_iff_exists.1 (TemplateReading.captures_isSome template readingSplit)
  obtain ⟨others, rfl, first⟩ := TemplateReading.captures_first captured
  have slashes := TemplateReading.separate_slashes proper (by rwa [TemplateReading.Separate, whole])
  obtain rfl := TemplateReading.captures_unique slashes first.1 readingSplit
  refine ⟨_, Option.map_eq_some_iff.2 ⟨_, captured, rfl⟩, ?_⟩
  have values : (others.map fun capture => Text.decodeSegment (String.ofList capture)) =
      reading.names.map value := by
    rw [decoded, TemplateReading.names, List.map_map]
    rfl
  rw [PathMatch.bindings, TemplateReading.pattern_names, List.map_map, List.map_prod_left_eq_zip]
  exact congrArg _ values

/-- A value with a slash, a plus, a percent sign and a brace, between literals beyond ASCII. -/
theorem binds_slash_and_brace :
    PathPattern.compile "/caf\u00e9/\x7bid\x7d.json" =
        .ok ⟨"/caf\u00e9/\x7bid\x7d.json", "/caf\u00e9/".toList, [("id", ".json".toList)]⟩ ∧
      (∀ segment ∈ Text.splitOn '/' "/caf\u00e9/\x7bid\x7d.json".toList, segment.count '\x7b' ≤ 1) ∧
      ∃ found, PathPattern.match? ⟨"/caf\u00e9/\x7bid\x7d.json", "/caf\u00e9/".toList,
            [("id", ".json".toList)]⟩ "/caf%C3%A9/a%2F%C3%BC%2B%25%7B.json" = some found ∧
        found.bindings = [("id", "a/\u00fc+%\x7b")] := by
  have written : TemplateReading.Proper ⟨"/caf\u00e9/".toList, [("id".toList, ".json".toList)]⟩ :=
    ⟨by decide, by decide, by decide⟩
  have accepted : PathPattern.compile "/caf\u00e9/\x7bid\x7d.json" =
      .ok ⟨"/caf\u00e9/\x7bid\x7d.json", "/caf\u00e9/".toList, [("id", ".json".toList)]⟩ :=
    TemplateReading.reading_compiles written (by decide) (by decide) (by decide) (by decide)
  have separate : ∀ segment ∈ Text.splitOn '/' "/caf\u00e9/\x7bid\x7d.json".toList,
      segment.count '\x7b' ≤ 1 := by
    decide +kernel
  refine ⟨accepted, separate, ?_⟩
  obtain ⟨reading, proper, whole, -, binds⟩ := bindings_of_address accepted separate
  have read : reading = ⟨"/caf\u00e9/".toList, [("id".toList, ".json".toList)]⟩ :=
    TemplateReading.reading_unique proper written (whole.trans (by decide))
  subst read
  obtain ⟨built, bound⟩ := binds (fun _ => "a/\u00fc+%\x7b") (by decide +kernel)
  have path : TemplateReading.address ⟨"/caf\u00e9/".toList, [("id".toList, ".json".toList)]⟩
      (fun _ => "a/\u00fc+%\x7b") = "/caf%C3%A9/a%2F%C3%BC%2B%25%7B.json" := by
    decide +kernel
  obtain ⟨found, matched, bindings⟩ := bound _ (path ▸ built)
  exact ⟨found, matched, bindings.trans (by decide +kernel)⟩

end RequestDispatch
