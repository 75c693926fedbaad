import RequestDispatch.Route.Pattern
import RequestDispatch.Proofs.Except
import Mathlib.Data.List.Basic
import Mathlib.Data.List.Nodup
import Mathlib.Data.List.TakeWhile

/-!
Templates read as text. A reading takes a template apart into literals and what is written between
braces, without a scan. The main statement is `compile_reading`: a template that compiles has
exactly one proper reading, and its pattern is that reading with the names trimmed. Nothing is said
here of which paths a pattern matches.
-/

namespace RequestDispatch

/-- Literal text, then for each variable what is written between its braces and the literal behind
them. -/
structure TemplateReading where
  leading : List Char
  pieces : List (List Char × List Char)

namespace TemplateReading

def writtenPieces (pieces : List (List Char × List Char)) : List Char :=
  pieces.flatMap fun piece => '\x7b' :: piece.1 ++ '\x7d' :: piece.2

def text (reading : TemplateReading) : List Char := reading.leading ++ writtenPieces reading.pieces

/-- The name of a variable: what is written between the braces, trimmed. -/
def nameOf (written : List Char) : String := String.ofList (Text.trimBoth Text.isBlank written)

def names (reading : TemplateReading) : List String :=
  reading.pieces.map fun piece => nameOf piece.1

def literals (reading : TemplateReading) : List (List Char) := reading.pieces.map Prod.snd

def lastLiteral (reading : TemplateReading) : List Char :=
  reading.literals.getLastD reading.leading

/-- No literal holds an opening brace, and nothing between braces holds a brace or a slash. -/
structure Proper (reading : TemplateReading) : Prop where
  leading : '\x7b' ∉ reading.leading
  literals : ∀ piece ∈ reading.pieces, '\x7b' ∉ piece.2
  names : ∀ piece ∈ reading.pieces, '\x7b' ∉ piece.1 ∧ '\x7d' ∉ piece.1 ∧ '/' ∉ piece.1

instance (reading : TemplateReading) : Decidable reading.Proper :=
  decidable_of_iff ('\x7b' ∉ reading.leading ∧ (∀ piece ∈ reading.pieces, '\x7b' ∉ piece.2) ∧
      ∀ piece ∈ reading.pieces, '\x7b' ∉ piece.1 ∧ '\x7d' ∉ piece.1 ∧ '/' ∉ piece.1)
    ⟨fun ⟨leading, literals, names⟩ => ⟨leading, literals, names⟩,
      fun proper => ⟨proper.leading, proper.literals, proper.names⟩⟩

def pattern (reading : TemplateReading) (template : String) : PathPattern :=
  { template := template, leading := reading.leading
    pieces := reading.pieces.map fun piece => (nameOf piece.1, piece.2) }

theorem Proper.tail {leading written literal : List Char} {pieces : List (List Char × List Char)}
    (proper : Proper ⟨leading, (written, literal) :: pieces⟩) : Proper ⟨literal, pieces⟩ where
  leading := proper.literals _ List.mem_cons_self
  literals := (List.forall_mem_cons.1 proper.literals).2
  names := (List.forall_mem_cons.1 proper.names).2

theorem pattern_names (reading : TemplateReading) (template : String) :
    (reading.pattern template).names = reading.names := by
  simp [pattern, PathPattern.names, names]

/-- A text is divided in one way only where a separator begins the second part, unless that is
empty, and does not occur in the first. -/
theorem divide_unique (separator : Char) {front otherFront back otherBack : List Char}
    (absent : separator ∉ front) (otherAbsent : separator ∉ otherFront)
    (begins : ∀ first ∈ back.head?, first = separator)
    (otherBegins : ∀ first ∈ otherBack.head?, first = separator)
    (same : front ++ back = otherFront ++ otherBack) : front = otherFront ∧ back = otherBack := by
  induction front generalizing otherFront with
  | nil =>
      cases otherFront with
      | nil => simpa using same
      | cons character rest =>
          have first := begins character (by simp [show back = _ from same])
          exact absurd (by simp [first]) otherAbsent
  | cons character front ih =>
      cases otherFront with
      | nil =>
          have first := otherBegins character (by simp [show otherBack = _ from same.symm])
          exact absurd (by simp [first]) absent
      | cons other otherFront =>
          simp only [List.cons_append, List.cons.injEq] at same
          have rest := ih (fun member => absent (by simp [member]))
            (fun member => otherAbsent (by simp [member])) same.2
          simp [same.1, rest]

theorem written_pieces_begin (pieces : List (List Char × List Char)) :
    ∀ first ∈ (writtenPieces pieces).head?, first = '\x7b' := by
  cases pieces <;> simp [writtenPieces, eq_comm]

theorem pieces_unique {pieces others : List (List Char × List Char)}
    (literals : ∀ piece ∈ pieces, '\x7b' ∉ piece.2) (names : ∀ piece ∈ pieces, '\x7d' ∉ piece.1)
    (otherLiterals : ∀ piece ∈ others, '\x7b' ∉ piece.2)
    (otherNames : ∀ piece ∈ others, '\x7d' ∉ piece.1)
    (same : writtenPieces pieces = writtenPieces others) : pieces = others := by
  induction pieces generalizing others with
  | nil =>
      cases others with
      | nil => rfl
      | cons other others => simp [writtenPieces] at same
  | cons piece pieces ih =>
      cases others with
      | nil => simp [writtenPieces] at same
      | cons other others =>
          simp only [List.forall_mem_cons] at literals names otherLiterals otherNames
          simp only [writtenPieces, List.flatMap_cons, List.cons_append, List.append_assoc,
            List.cons.injEq, true_and] at same
          have written := divide_unique '\x7d' names.1 otherNames.1 (by simp) (by simp) same
          have literal := divide_unique '\x7b' literals.1 otherLiterals.1
            (written_pieces_begin pieces) (written_pieces_begin others) (List.cons.inj written.2).2
          rw [Prod.ext written.1 literal.1,
            ih literals.2 names.2 otherLiterals.2 otherNames.2 literal.2]

/-- A template has one proper reading at most. -/
theorem reading_unique {reading other : TemplateReading} (proper : reading.Proper)
    (otherProper : other.Proper) (same : reading.text = other.text) : reading = other := by
  have divided := divide_unique '\x7b' proper.leading otherProper.leading
    (written_pieces_begin reading.pieces) (written_pieces_begin other.pieces) same
  have pieces := pieces_unique proper.literals (fun piece member => (proper.names piece member).2.1)
    otherProper.literals (fun piece member => (otherProper.names piece member).2.1) divided.2
  cases reading
  cases other
  simp_all

theorem mem_dropWhile_of_not {test : Char → Bool} {text : List Char} {character : Char}
    (member : character ∈ text) (stays : test character = false) :
    character ∈ text.dropWhile test := by
  rw [← List.takeWhile_append_dropWhile (p := test) (l := text)] at member
  rcases List.mem_append.1 member with dropped | kept
  · exact absurd (List.mem_takeWhile_imp dropped) (by simp [stays])
  · exact kept

theorem mem_nameOf {written : List Char} {character : Char} (member : character ∈ written)
    (visible : Text.isBlank character = false) : character ∈ (nameOf written).toList := by
  have behind := mem_dropWhile_of_not member visible
  have before := mem_dropWhile_of_not (List.mem_reverse.2 behind) visible
  simpa [nameOf, Text.trimBoth, Text.trimEnd] using before

/-- The text that a scan has read but not yet given to a piece. -/
def pendingText : Option (List Char) → List Char
  | none => []
  | some inside => '\x7b' :: inside.reverse

/-- What a scan returns is read off a proper reading of the text that it began with. -/
theorem parse_reading {known : List String} {state : Option (List Char)} {rest : List Char}
    {leading : List Char} {pieces : List (String × List Char)}
    (inside : ∀ written ∈ state, '\x7d' ∉ written)
    (parsed : PathPattern.parse known state rest = .ok (leading, pieces)) :
    ∃ reading : TemplateReading, reading.Proper ∧ reading.text = pendingText state ++ rest ∧
      reading.leading = leading ∧
      (reading.pieces.map fun piece => (nameOf piece.1, piece.2)) = pieces ∧
      reading.names.Nodup ∧ ∀ name ∈ reading.names, name ∉ known := by
  fun_induction PathPattern.parse known state rest generalizing leading pieces with
  | case1 known =>
      simp only [Except.ok.injEq, Prod.mk.injEq] at parsed
      exact ⟨⟨[], []⟩, ⟨by simp, by simp, by simp⟩, by simp [text, writtenPieces, pendingText],
        by simp [parsed], by simp [parsed], by simp [names], by simp [names]⟩
  | case2 => simp at parsed
  | case3 known rest ih =>
      exact ih (by simp) parsed
  | case4 => simp at parsed
  | case5 known character rest notOpening _ ih =>
      obtain ⟨⟨literal, others⟩, found, same⟩ := map_eq_ok.1 parsed
      obtain ⟨reading, proper, whole, front, named, distinct, fresh⟩ := ih (by simp) found
      simp only [Prod.mk.injEq] at same
      refine ⟨⟨character :: reading.leading, reading.pieces⟩, ⟨?_, proper.literals, proper.names⟩,
        ?_, ?_, ?_, distinct, fresh⟩
      · simp [proper.leading, Ne.symm notOpening]
      · simpa [text, pendingText] using whole
      · simp [front, same.1]
      · simp [named, same.2]
  | case6 => simp at parsed
  | case7 => simp at parsed
  | case8 known written rest name usable unknown =>
      rename_i ih
      obtain ⟨⟨literal, others⟩, found, same⟩ := map_eq_ok.1 parsed
      obtain ⟨reading, proper, whole, front, named, distinct, fresh⟩ := ih (by simp) found
      simp only [Prod.mk.injEq] at same
      have own : nameOf written.reverse = name := rfl
      have visible (character : Char) (absent : name.contains character = false)
          (notBlank : Text.isBlank character = false) : character ∉ written.reverse := by
        intro member
        have kept := mem_nameOf member notBlank
        rw [own] at kept
        rw [String.contains_char_eq] at absent
        simp [kept] at absent
      simp only [Bool.or_eq_true, not_or, Bool.not_eq_true] at usable
      have opening := visible '\x7b' usable.1.2 (by decide)
      have slash := visible '/' usable.2 (by decide)
      have closing : '\x7d' ∉ written.reverse := by simpa using inside
      refine ⟨⟨[], (written.reverse, reading.leading) :: reading.pieces⟩, ⟨by simp, ?_, ?_⟩,
        ?_, same.1, ?_, ?_, ?_⟩
      · simpa [proper.leading] using proper.literals
      · exact List.forall_mem_cons.2 ⟨⟨opening, closing, slash⟩, proper.names⟩
      · simpa [text, writtenPieces, pendingText] using whole
      · simpa [own, named, front] using same.2
      · have absent : name ∉ reading.names := fun member => fresh name member (by simp)
        exact List.nodup_cons.2 ⟨absent, distinct⟩
      · intro other member
        rcases List.mem_cons.1 member with rfl | member
        · simpa [own] using unknown
        · exact fun knownBefore => fresh other member (by simp [knownBefore])
  | case9 known written character rest notClosing ih =>
      obtain ⟨reading, proper, whole, others⟩ := ih (by simp [Ne.symm notClosing, inside]) parsed
      exact ⟨reading, proper, by simpa [pendingText] using whole, others⟩

theorem compile_reading {template : String} {compiled : PathPattern}
    (accepted : PathPattern.compile template = .ok compiled) :
    ∃ reading : TemplateReading, reading.Proper ∧ reading.text = template.toList ∧
      compiled = reading.pattern template ∧ reading.names.Nodup := by
  obtain ⟨⟨leading, pieces⟩, parsed, same⟩ := map_eq_ok.1 accepted
  obtain ⟨reading, proper, whole, front, named, distinct, -⟩ := parse_reading (by simp) parsed
  refine ⟨reading, proper, by simpa [pendingText] using whole, ?_, distinct⟩
  rw [← same, pattern, front, named]

theorem mem_of_mem_nameOf {written : List Char} {character : Char}
    (member : character ∈ (nameOf written).toList) : character ∈ written := by
  simp only [nameOf, String.toList_ofList, Text.trimBoth, Text.trimEnd, List.mem_reverse] at member
  have kept := (List.dropWhile_sublist Text.isBlank).subset member
  exact (List.dropWhile_sublist Text.isBlank).subset (List.mem_reverse.1 kept)

/-- A literal is read up to the brace behind it. It may hold closing braces only before another
variable. -/
theorem parse_literal {known : List String} {literal : List Char} (rest : List Char)
    (opening : '\x7b' ∉ literal) (closing : '\x7d' ∈ literal → '\x7b' ∈ rest) :
    PathPattern.parse known none (literal ++ rest) =
      (PathPattern.parse known none rest).map fun read => (literal ++ read.1, read.2) := by
  induction literal with
  | nil =>
      cases parsed : PathPattern.parse known none rest <;> simp [parsed, Except.map]
  | cons character literal ih =>
      rw [List.mem_cons, not_or] at opening
      have inner : '\x7d' ∈ literal → '\x7b' ∈ rest := by
        intro member
        exact closing (List.mem_cons_of_mem _ member)
      have later := ih opening.2 inner
      have refused : ¬(character = '\x7d' ∧ '\x7b' ∉ literal ++ rest) := by
        rintro ⟨rfl, absent⟩
        exact absent (List.mem_append_right _ (closing List.mem_cons_self))
      rw [List.cons_append, PathPattern.parse, if_neg (Ne.symm opening.1), if_neg refused, later]
      cases PathPattern.parse known none rest <;> rfl

theorem parse_written {known : List String} {written : List Char} (inside rest : List Char)
    (closing : '\x7d' ∉ written) :
    PathPattern.parse known (some inside) (written ++ '\x7d' :: rest) =
      PathPattern.parse known (some (written.reverse ++ inside)) ('\x7d' :: rest) := by
  induction written generalizing inside with
  | nil => rfl
  | cons character written ih =>
      rw [List.mem_cons, not_or] at closing
      rw [List.cons_append, PathPattern.parse, if_neg (Ne.symm closing.1), ih _ closing.2,
        List.reverse_cons, List.append_assoc]
      rfl

theorem parse_name {known : List String} {written : List Char} (rest : List Char)
    (opening : '\x7b' ∉ written) (slash : '/' ∉ written) (named : nameOf written ≠ "")
    (unknown : nameOf written ∉ known) :
    PathPattern.parse known (some written.reverse) ('\x7d' :: rest) =
      (PathPattern.parse (known ++ [nameOf written]) none rest).map fun read =>
        ([], (nameOf written, read.1) :: read.2) := by
  have name : String.ofList (Text.trimBoth Text.isBlank written.reverse.reverse) =
      nameOf written := by
    rw [List.reverse_reverse, nameOf]
  have holds {character : Char} (absent : character ∉ written) :
      (nameOf written).contains character = false := by
    rw [String.contains_char_eq]
    simpa using fun member => absent (mem_of_mem_nameOf member)
  have nonempty : (nameOf written).isEmpty = false := by simpa using named
  rw [PathPattern.parse, if_pos rfl]
  simp only [name, nonempty, holds opening, holds slash, Bool.or_false, Bool.false_eq_true,
    if_false, List.contains_iff_mem, unknown]

/-- A scan finds the pieces of a proper reading whose names are not empty and differ from each
other and from those known, if no closing brace stands behind the last variable. -/
theorem parse_writes {known : List String} {reading : TemplateReading} (proper : reading.Proper)
    (named : "" ∉ reading.names) (distinct : (known ++ reading.names).Nodup)
    (closed : '\x7d' ∉ reading.lastLiteral) :
    PathPattern.parse known none reading.text =
      .ok (reading.leading, reading.pieces.map fun piece => (nameOf piece.1, piece.2)) := by
  obtain ⟨leading, pieces⟩ := reading
  induction pieces generalizing known leading with
  | nil =>
      have closing : '\x7d' ∈ leading → '\x7b' ∈ [] := by
        intro member
        exact absurd member closed
      rw [text, writtenPieces, List.flatMap_nil, parse_literal [] proper.leading closing,
        PathPattern.parse]
      simp [Except.map]
  | cons piece pieces ih =>
      obtain ⟨written, literal⟩ := piece
      have braces := proper.names _ List.mem_cons_self
      simp only [names, List.map_cons, List.mem_cons, not_or] at named distinct
      have unknown : nameOf written ∉ known := by
        intro member
        exact (List.nodup_append.1 distinct).2.2 _ member _ List.mem_cons_self rfl
      have others : ((known ++ [nameOf written]) ++ names ⟨literal, pieces⟩).Nodup := by
        rw [List.append_assoc]
        exact distinct
      have closes : '\x7d' ∉ lastLiteral ⟨literal, pieces⟩ := by
        simpa [lastLiteral, literals, List.getLast?_cons] using closed
      have later := ih literal proper.tail named.2 others closes
      have written_out : text ⟨leading, (written, literal) :: pieces⟩ =
          leading ++ '\x7b' :: (written ++ '\x7d' :: text ⟨literal, pieces⟩) := by
        simp [text, writtenPieces]
      rw [written_out, parse_literal _ proper.leading fun _ => List.mem_cons_self,
        PathPattern.parse, if_pos rfl, parse_written [] _ braces.2.1, List.append_nil,
        parse_name _ braces.1 braces.2.2 (Ne.symm named.1) unknown, later]
      simp [Except.map]

theorem reading_compiles {template : String} {reading : TemplateReading} (proper : reading.Proper)
    (whole : reading.text = template.toList) (named : "" ∉ reading.names)
    (distinct : reading.names.Nodup) (closed : '\x7d' ∉ reading.lastLiteral) :
    PathPattern.compile template = .ok (reading.pattern template) := by
  rw [PathPattern.compile, ← whole, parse_writes proper named distinct closed]
  rfl

theorem checked_compiles {template : String} {reading : TemplateReading}
    (checked : reading.Proper ∧ reading.text = template.toList ∧ "" ∉ reading.names ∧
      reading.names.Nodup ∧ '\x7d' ∉ reading.lastLiteral) :
    PathPattern.compile template = .ok (reading.pattern template) := by
  obtain ⟨proper, whole, named, distinct, closed⟩ := checked
  exact reading_compiles proper whole named distinct closed

end TemplateReading
end RequestDispatch
