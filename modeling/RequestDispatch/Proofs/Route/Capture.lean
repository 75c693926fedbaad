import RequestDispatch.Proofs.Route.Reading
import RequestDispatch.Proofs.Text.Hex
import Mathlib.Data.List.Infix

/-!
What a path pattern matches and what its variables capture. Paths are split by a relation that
knows nothing of rows; the row of a pattern is shown to hold, for each rest of a path, the split
that comes first when earlier variables take as much as they can. The lengths of captured texts
are compared from the first variable on.
-/

namespace RequestDispatch

/-- Bytes as they stand in a path when each is escaped, the digits in either case. -/
inductive Escapes : List UInt8 → List Char → Prop
  | nil : Escapes [] []
  | cons {byte : UInt8} {high low : Char} {bytes : List UInt8} {text : List Char} :
      Text.hexByte? high low = some byte → Escapes bytes text →
        Escapes (byte :: bytes) ('%' :: high :: low :: text)

/-- A literal as it stands in a path: an ASCII character for itself, any other character for the
escapes of its bytes. -/
inductive Spells : List Char → List Char → Prop
  | nil : Spells [] []
  | plain {character : Char} {literal text : List Char} :
      character.toNat < 0x80 → Spells literal text →
        Spells (character :: literal) (character :: text)
  | escaped {character : Char} {literal front text : List Char} :
      0x80 ≤ character.toNat → Escapes (Text.utf8Bytes (String.ofList [character])) front →
        Spells literal text → Spells (character :: literal) (front ++ text)

/-- Captured texts, each followed by a literal, make up a path. A captured text is not empty and
holds no slash. -/
inductive Splits : List (List Char) → List (List Char) → List Char → Prop
  | nil : Splits [] [] []
  | cons {literal capture spelled rest : List Char} {literals captures : List (List Char)} :
      capture ≠ [] → '/' ∉ capture → Spells literal spelled → Splits literals captures rest →
        Splits (literal :: literals) (capture :: captures) (capture ++ (spelled ++ rest))

def TemplateReading.Splits (reading : TemplateReading) (captures : List (List Char))
    (path : List Char) : Prop :=
  ∃ spelled rest, path = spelled ++ rest ∧ Spells reading.leading spelled ∧
    RequestDispatch.Splits reading.literals captures rest

namespace PathPattern

/-- A text is spelled as a list asks for, one character for each entry. -/
def Spelled (spellings : List Spelling) (text : List Char) : Prop :=
  List.Forall₂ (fun spelling character => spelling.admits character = true) spellings text

theorem spelled_append {front back : List Spelling} {text : List Char} :
    Spelled (front ++ back) text ↔
      ∃ first second, text = first ++ second ∧ Spelled front first ∧ Spelled back second := by
  constructor
  · intro spelled
    refine ⟨text.take front.length, text.drop front.length, by simp, ?_, ?_⟩
    · simpa [Spelled] using List.forall₂_take front.length spelled
    · simpa [Spelled] using List.forall₂_drop front.length spelled
  · rintro ⟨first, second, rfl, frontSpelled, backSpelled⟩
    exact List.rel_append frontSpelled backSpelled

theorem dropLiteral_eq_some {spellings : List Spelling} {path rest : List Char} :
    dropLiteral spellings path = some rest ↔
      ∃ spelled, path = spelled ++ rest ∧ Spelled spellings spelled := by
  induction spellings generalizing path with
  | nil =>
      constructor
      · intro same
        exact ⟨[], by simpa [dropLiteral] using same, .nil⟩
      · rintro ⟨spelled, rfl, ⟨⟩⟩
        rfl
  | cons spelling spellings ih =>
      cases path with
      | nil => simp [dropLiteral, Spelled]
      | cons character path =>
          simp only [dropLiteral, Option.ite_none_right_eq_some, ih]
          constructor
          · rintro ⟨admitted, spelled, rfl, others⟩
            exact ⟨character :: spelled, rfl, .cons admitted others⟩
          · rintro ⟨spelled, same, others⟩
            cases others with
            | cons admitted others =>
                simp only [List.cons_append, List.cons.injEq] at same
                exact ⟨same.1 ▸ admitted, _, same.2, others⟩

def escapeSpellings (bytes : List UInt8) : List Spelling :=
  bytes.flatMap fun byte => [.exact '%', .digit (byte.toNat / 16), .digit (byte.toNat % 16)]

theorem spelled_escapes {bytes : List UInt8} {text : List Char} :
    Spelled (escapeSpellings bytes) text ↔ Escapes bytes text := by
  constructor
  · intro spelled
    induction bytes generalizing text with
    | nil =>
        cases spelled
        exact .nil
    | cons byte bytes ih =>
        simp only [escapeSpellings, List.flatMap_cons, List.cons_append, List.nil_append] at spelled
        rcases spelled with _ | ⟨sign, _ | ⟨high, _ | ⟨low, others⟩⟩⟩
        simp only [Spelling.admits, beq_iff_eq] at sign high low
        subst sign
        exact .cons (Text.hex_byte_eq_some.2 ⟨high, low⟩) (ih others)
  · intro escapes
    induction escapes with
    | nil => exact .nil
    | cons read _ ih =>
        have digits := Text.hex_byte_eq_some.1 read
        exact .cons (by simp [Spelling.admits]) (.cons (by simp [Spelling.admits, digits.1])
          (.cons (by simp [Spelling.admits, digits.2]) ih))

theorem spelled_literal {literal text : List Char} :
    Spelled (literal.flatMap spell) text ↔ Spells literal text := by
  constructor
  · intro spelled
    induction literal generalizing text with
    | nil =>
        cases spelled
        exact .nil
    | cons character literal ih =>
        rw [List.flatMap_cons, spelled_append] at spelled
        obtain ⟨front, back, rfl, frontSpelled, backSpelled⟩ := spelled
        unfold spell at frontSpelled
        split at frontSpelled
        · next ascii =>
          rcases frontSpelled with _ | ⟨same, ⟨⟩⟩
          simp only [Spelling.admits, beq_iff_eq] at same
          subst same
          exact .plain ascii (ih backSpelled)
        · next beyond =>
          exact .escaped (by omega) (spelled_escapes.1 frontSpelled) (ih backSpelled)
  · intro spells
    induction spells with
    | nil => exact .nil
    | plain ascii _ ih =>
        rw [List.flatMap_cons, spell, if_pos ascii]
        exact .cons (by simp [Spelling.admits]) ih
    | escaped beyond escapes _ ih =>
        rw [List.flatMap_cons, spell, if_neg (by omega), spelled_append]
        exact ⟨_, _, rfl, spelled_escapes.2 escapes, ih⟩

theorem spelled_length {spellings : List Spelling} {text : List Char}
    (spelled : Spelled spellings text) : text.length = spellings.length :=
  (List.Forall₂.length_eq spelled).symm

/-- A variable takes as many characters as it can, but one at least, as long as what follows still
matches. -/
def longest (after : List Char → Option Captures) : List Char → Option Captures
  | [] => none
  | character :: path =>
    if character = '/' then none
    else
      match longest after path with
      | some (capture :: captures) => some ((character :: capture) :: captures)
      | _ => (after path).map fun captures => [character] :: captures

/-- What is captured in front of the given literals when earlier variables choose first. -/
def firstSplit : List (List Char) → List Char → Option Captures
  | [], path => if path = [] then some [] else none
  | literal :: literals, path =>
    longest (fun rest => (dropLiteral (literal.flatMap spell) rest).bind (firstSplit literals)) path

theorem head_row (after : List Char → Option Captures) (path : List Char) :
    (path.tails.map after).head?.join = after path := by
  cases path <;> simp

theorem end_row (path : List Char) : endRow path = path.tails.map (firstSplit []) := by
  induction path with
  | nil => simp [endRow, firstSplit]
  | cons character path ih => simp [endRow, firstSplit, ih]

theorem entry_behind_literal (spellings : List Spelling) (after : List Char → Option Captures)
    (path : List Char) :
    (if (dropLiteral spellings path).isSome then
      ((path.tails.map after).drop spellings.length).head?.join else none) =
      (dropLiteral spellings path).bind after := by
  cases dropped : dropLiteral spellings path with
  | none => simp
  | some rest =>
      obtain ⟨spelled, rfl, fits⟩ := dropLiteral_eq_some.1 dropped
      have length := spelled_length fits
      have within : spellings.length < (spelled ++ rest).tails.length := by
        simp [length]
        omega
      rw [List.head?_drop, List.getElem?_map, List.getElem?_eq_getElem within, List.getElem_tails]
      simp [← length]

theorem literal_row (spellings : List Spelling) (after : List Char → Option Captures)
    (path : List Char) :
    literalRow spellings path (path.tails.map after) =
      path.tails.map fun rest => (dropLiteral spellings rest).bind after := by
  induction path with
  | nil =>
      rw [literalRow, entry_behind_literal]
      rfl
  | cons character path ih =>
      rw [literalRow, entry_behind_literal]
      simp only [List.tails_cons, List.map_cons, List.tail_cons]
      rw [ih]

theorem variable_row (after : List Char → Option Captures) (path : List Char) :
    variableRow path (path.tails.map after) = path.tails.map (longest after) := by
  induction path with
  | nil => rfl
  | cons character path ih =>
      simp only [List.tails_cons, List.map_cons, variableRow, List.tail_cons]
      rw [ih, head_row, head_row]
      rfl

/-- A row holds the first split of each rest of a path. -/
theorem match_row (pieces : List (String × List Char)) (path : List Char) :
    matchRow pieces path = path.tails.map (firstSplit (pieces.map Prod.snd)) := by
  induction pieces with
  | nil => exact end_row path
  | cons piece pieces ih =>
      rw [matchRow, ih, literal_row, variable_row]
      rfl

theorem longest_sound {after : List Char → Option Captures} {path : List Char}
    {captures : Captures} (found : longest after path = some captures) :
    ∃ capture others rest, captures = capture :: others ∧ path = capture ++ rest ∧ capture ≠ [] ∧
      '/' ∉ capture ∧ after rest = some others := by
  induction path generalizing captures with
  | nil => simp [longest] at found
  | cons character path ih =>
      rw [longest, Option.ite_none_left_eq_some] at found
      obtain ⟨noSlash, found⟩ := found
      split at found
      · next capture others later =>
        obtain ⟨_, _, rest, same, rfl, -, absent, matched⟩ := ih later
        cases same
        cases found
        exact ⟨_, _, rest, rfl, rfl, by simp, by simp [Ne.symm noSlash, absent], matched⟩
      · obtain ⟨others, matched, rfl⟩ := Option.map_eq_some_iff.1 found
        exact ⟨_, others, path, rfl, rfl, by simp, by simp [Ne.symm noSlash], matched⟩

/-- A variable captures as much as any text that could stand in its place. -/
theorem longest_greatest (after : List Char → Option Captures) {capture rest : List Char}
    (nonempty : capture ≠ []) (absent : '/' ∉ capture) (matched : (after rest).isSome) :
    ∃ best others, longest after (capture ++ rest) = some (best :: others) ∧
      capture.length ≤ best.length := by
  induction capture with
  | nil => exact absurd rfl nonempty
  | cons character capture ih =>
      have noSlash : character ≠ '/' := by
        rintro rfl
        simp at absent
      rw [List.cons_append, longest, if_neg noSlash]
      by_cases last : capture = []
      · subst last
        obtain ⟨others, found⟩ := Option.isSome_iff_exists.1 matched
        split
        · exact ⟨_, _, rfl, by simp⟩
        · exact ⟨[character], others, by simp [found], by simp⟩
      · obtain ⟨best, others, found, bound⟩ := ih last (by simp_all)
        rw [found]
        exact ⟨_, _, rfl, by simpa using bound⟩

theorem firstSplit_sound {literals : List (List Char)} {path : List Char} {captures : Captures}
    (found : firstSplit literals path = some captures) : Splits literals captures path := by
  induction literals generalizing path captures with
  | nil =>
      simp only [firstSplit, Option.ite_none_right_eq_some, Option.some.injEq] at found
      rw [found.1, ← found.2]
      exact .nil
  | cons literal literals ih =>
      obtain ⟨capture, others, rest, rfl, rfl, nonempty, absent, matched⟩ := longest_sound found
      obtain ⟨behind, dropped, inner⟩ := Option.bind_eq_some_iff.1 matched
      obtain ⟨spelled, rfl, fits⟩ := dropLiteral_eq_some.1 dropped
      exact .cons nonempty absent (spelled_literal.1 fits) (ih inner)

/-- Of two lists of captured texts the first captures less where the two differ first. -/
def CapturesLess : Captures → Captures → Prop :=
  List.Lex fun first second => first.length < second.length

/-- A path that can be split has a first split, and every other one captures less. -/
theorem firstSplit_greatest {literals : List (List Char)} {captures : List (List Char)}
    {path : List Char} (split : Splits literals captures path) :
    ∃ best, firstSplit literals path = some best ∧
      (captures = best ∨ CapturesLess captures best) := by
  induction split with
  | nil => exact ⟨[], by simp [firstSplit], .inl rfl⟩
  | @cons literal capture spelled rest literals captures nonempty absent spells _ ih =>
      obtain ⟨best, found, bound⟩ := ih
      have fits := spelled_literal.2 spells
      have dropped : dropLiteral (literal.flatMap spell) (spelled ++ rest) = some rest :=
        dropLiteral_eq_some.2 ⟨spelled, rfl, fits⟩
      have matched : ((dropLiteral (literal.flatMap spell) (spelled ++ rest)).bind
          (firstSplit literals)).isSome := by
        simp [dropped, found]
      obtain ⟨first, others, chosen, longer⟩ := longest_greatest
        (fun rest => (dropLiteral (literal.flatMap spell) rest).bind (firstSplit literals))
        nonempty absent matched
      refine ⟨first :: others, chosen, ?_⟩
      rcases Nat.lt_or_eq_of_le longer with longer | same
      · exact .inr (.rel longer)
      · -- As long as the best capture, the other one is the same text, and so are the rests.
        obtain ⟨_, _, behind, equal, divided, -, -, after⟩ := longest_sound chosen
        cases equal
        have parts := List.append_inj divided same
        rw [← parts.2, dropped, Option.bind_some, found] at after
        cases after
        rw [← parts.1]
        rcases bound with rfl | less
        · exact .inl rfl
        · exact .inr (.cons less)

theorem captures_eq (pattern : PathPattern) (path : String) :
    pattern.captures? path =
      ((dropLiteral (pattern.leading.flatMap spell) path.toList).bind
        (firstSplit (pattern.pieces.map Prod.snd))).map fun captures =>
          captures.map String.ofList := by
  simp only [captures?, match_row, head_row]

theorem splits_length {literals captures : List (List Char)} {path : List Char}
    (split : Splits literals captures path) : captures.length = literals.length := by
  induction split with
  | nil => rfl
  | cons _ _ _ _ ih => simp [ih]

theorem captures_length {pattern : PathPattern} {path : String} {groups : List String}
    (found : pattern.captures? path = some groups) : groups.length = pattern.names.length := by
  rw [captures_eq] at found
  obtain ⟨captures, matched, rfl⟩ := Option.map_eq_some_iff.1 found
  obtain ⟨rest, -, chosen⟩ := Option.bind_eq_some_iff.1 matched
  have length := splits_length (firstSplit_sound chosen)
  simpa [names] using length

end PathPattern

namespace TemplateReading

open PathPattern

/-- A split in which each captured text is as long as it can be, given those before it: every other
split captures less where the two differ first. -/
def SplitsFirst (reading : TemplateReading) (captures : List (List Char)) (path : List Char) :
    Prop :=
  reading.Splits captures path ∧
    ∀ others, reading.Splits others path → others = captures ∨ CapturesLess others captures

theorem captures_pattern (reading : TemplateReading) (template path : String) :
    (reading.pattern template).captures? path =
      ((dropLiteral (reading.leading.flatMap spell) path.toList).bind
        (firstSplit reading.literals)).map fun captures => captures.map String.ofList := by
  rw [captures_eq]
  simp [pattern, TemplateReading.literals, Function.comp_def]

theorem captures_isSome {reading : TemplateReading} {captures : List (List Char)} {path : String}
    (template : String) (split : reading.Splits captures path.toList) :
    ((reading.pattern template).captures? path).isSome := by
  obtain ⟨spelled, rest, divided, spells, others⟩ := split
  have dropped := dropLiteral_eq_some.2 ⟨spelled, divided, spelled_literal.2 spells⟩
  obtain ⟨best, found, -⟩ := firstSplit_greatest others
  rw [captures_pattern, dropped]
  simp [found]

theorem captures_first {reading : TemplateReading} {template path : String} {groups : List String}
    (found : (reading.pattern template).captures? path = some groups) :
    ∃ captures, groups = captures.map String.ofList ∧
      reading.SplitsFirst captures path.toList := by
  rw [captures_pattern] at found
  obtain ⟨captures, matched, rfl⟩ := Option.map_eq_some_iff.1 found
  obtain ⟨rest, dropped, chosen⟩ := Option.bind_eq_some_iff.1 matched
  obtain ⟨spelled, divided, fits⟩ := dropLiteral_eq_some.1 dropped
  refine ⟨captures, rfl, ⟨spelled, rest, divided, spelled_literal.1 fits,
    firstSplit_sound chosen⟩, ?_⟩
  rintro others ⟨otherSpelled, otherRest, otherDivided, otherSpells, otherSplit⟩
  -- Every spelling of a literal has the same length, so both splits go on with the same rest.
  have length := spelled_length fits
  have otherLength := spelled_length (spelled_literal.2 otherSpells)
  have parts := List.append_inj (divided.symm.trans otherDivided) (length.trans otherLength.symm)
  obtain ⟨best, known, bound⟩ := firstSplit_greatest otherSplit
  rw [← parts.2, chosen] at known
  cases known
  exact bound

theorem raw_names {names groups : List String} (distinct : names.Nodup)
    (length : groups.length = names.length) :
    names.map (PathMatch.mk names groups).raw? = groups.map some := by
  apply List.ext_getElem (by simp [length])
  intro index bound _
  have within : index < names.length := by simpa using bound
  have position : names.idxOf? names[index] = some index := by
    refine List.idxOf?_eq_some_iff.2 ⟨within, rfl, ?_⟩
    intro earlier before
    exact (List.pairwise_iff_getElem.1 distinct earlier index _ within before)
  simp only [List.getElem_map, PathMatch.raw?, position, Option.bind_some]
  exact List.getElem?_eq_getElem (length ▸ within)

end TemplateReading

/-- A template that compiles is read in one way only. Its pattern matches exactly the paths that
the reading splits, with one group for each variable, and each variable captures its part of the
first split. -/
theorem match_iff_splits {template : String} {pattern : PathPattern}
    (accepted : PathPattern.compile template = .ok pattern) :
    ∃ reading : TemplateReading, reading.Proper ∧ reading.text = template.toList ∧
      (∀ other : TemplateReading, other.Proper → other.text = template.toList → other = reading) ∧
      ∀ path : String,
        ((pattern.match? path).isSome ↔ ∃ captures, reading.Splits captures path.toList) ∧
          ∀ found, pattern.match? path = some found →
            found.groupCount = reading.pieces.length ∧
              ∃ captures, reading.SplitsFirst captures path.toList ∧
                reading.names.map found.raw? =
                  captures.map fun capture => some (String.ofList capture) := by
  obtain ⟨reading, proper, whole, rfl, distinct⟩ := TemplateReading.compile_reading accepted
  refine ⟨reading, proper, whole, fun other otherProper otherWhole =>
    TemplateReading.reading_unique otherProper proper (otherWhole.trans whole.symm), ?_⟩
  intro path
  constructor
  · rw [PathPattern.match?, Option.isSome_map]
    constructor
    · intro matched
      obtain ⟨groups, found⟩ := Option.isSome_iff_exists.1 matched
      obtain ⟨captures, -, first⟩ := TemplateReading.captures_first found
      exact ⟨captures, first.1⟩
    · rintro ⟨captures, split⟩
      exact TemplateReading.captures_isSome template split
  · intro found matched
    obtain ⟨groups, captured, rfl⟩ := Option.map_eq_some_iff.1 matched
    obtain ⟨captures, rfl, first⟩ := TemplateReading.captures_first captured
    obtain ⟨_, _, -, -, split⟩ := first.1
    have length : captures.length = reading.pieces.length := by
      simpa [TemplateReading.literals] using PathPattern.splits_length split
    refine ⟨by simpa [PathMatch.groupCount] using length, captures, first, ?_⟩
    rw [TemplateReading.pattern_names, TemplateReading.raw_names distinct
      (by simpa [TemplateReading.names] using length), List.map_map]
    rfl

/-- Two variables in one segment: the first takes the longer part. -/
theorem captures_around_dash :
    PathPattern.compile "/\x7bfirst\x7d-\x7b second \x7d" =
        .ok ⟨"/\x7bfirst\x7d-\x7b second \x7d", ['/'], [("first", ['-']), ("second", [])]⟩ ∧
      ∃ captures, TemplateReading.SplitsFirst
          ⟨['/'], [("first".toList, ['-']), (" second ".toList, [])]⟩ captures "/a-b-c".toList ∧
        captures.map String.ofList = ["a-b", "c"] := by
  have written : TemplateReading.Proper
      ⟨['/'], [("first".toList, ['-']), (" second ".toList, [])]⟩ :=
    ⟨by decide, by decide, by decide⟩
  have accepted : PathPattern.compile "/\x7bfirst\x7d-\x7b second \x7d" =
      .ok ⟨"/\x7bfirst\x7d-\x7b second \x7d", ['/'], [("first", ['-']), ("second", [])]⟩ :=
    TemplateReading.reading_compiles written (by decide) (by decide) (by decide) (by decide)
  obtain ⟨reading, -, -, only, decides⟩ := match_iff_splits accepted
  have read := only _ written (by decide)
  obtain ⟨-, captures, first, raw⟩ := (decides "/a-b-c").2
    ⟨["first", "second"], ["a-b", "c"]⟩ (by decide +kernel)
  rw [← read] at first raw
  refine ⟨accepted, captures, first, ?_⟩
  have groups : [some "a-b", some "c"] = captures.map fun capture => some (String.ofList capture) :=
    Eq.trans (by decide +kernel) raw
  apply List.map_injective_iff.2 (fun _ _ => Option.some.inj)
  rw [List.map_map]
  exact groups.symm

end RequestDispatch
