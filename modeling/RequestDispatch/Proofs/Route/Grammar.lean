import RequestDispatch.Proofs.Route.Reading

/-!
Which templates compile. Literals and variables between braces, with names that are not empty and
all different, make a template that compiles, if no closing brace stands behind the last variable;
nothing else does, and the pattern is the template read so. The main statement is
`compile_iff_written`. A closing brace in a literal before a variable goes unnoticed
(`stray_brace_compiles`).
-/

namespace RequestDispatch
namespace TemplateReading

/-- The template is the text of the reading, and its variables can be told apart by their names. -/
structure Writes (reading : TemplateReading) (template : String) : Prop where
  proper : reading.Proper
  named : "" ∉ reading.names
  distinct : reading.names.Nodup
  whole : reading.text = template.toList

def Balanced (reading : TemplateReading) : Prop :=
  '\x7d' ∉ reading.leading ∧ ∀ piece ∈ reading.pieces, '\x7d' ∉ piece.2

theorem Balanced.last {reading : TemplateReading} (balanced : reading.Balanced) :
    '\x7d' ∉ reading.lastLiteral := by
  rw [lastLiteral, List.getLastD_eq_getLast?]
  cases last : reading.literals.getLast? with
  | none => exact balanced.1
  | some literal =>
      obtain ⟨piece, member, rfl⟩ := List.mem_map.1 (List.mem_of_getLast? last)
      exact balanced.2 piece member

theorem parse_names {known : List String} {state : Option (List Char)} {rest leading : List Char}
    {pieces : List (String × List Char)}
    (parsed : PathPattern.parse known state rest = .ok (leading, pieces)) :
    "" ∉ pieces.map Prod.fst := by
  fun_induction PathPattern.parse known state rest generalizing leading pieces with
  | case1 => cases parsed; simp
  | case2 => cases parsed
  | case3 _ _ ih => exact ih parsed
  | case4 => cases parsed
  | case5 _ _ _ _ _ ih =>
      obtain ⟨⟨literal, others⟩, found, same⟩ := map_eq_ok.1 parsed
      cases same
      exact ih found
  | case6 => cases parsed
  | case7 => cases parsed
  | case8 _ _ _ name usable _ =>
      rename_i ih
      obtain ⟨⟨literal, others⟩, found, same⟩ := map_eq_ok.1 parsed
      cases same
      simp only [Bool.or_eq_true, not_or, String.isEmpty_iff] at usable
      rw [List.map_cons, List.mem_cons, not_or]
      exact ⟨Ne.symm usable.1.1, ih found⟩
  | case9 _ _ _ _ _ ih => exact ih parsed

theorem parse_literal_only {known : List String} {rest leading : List Char}
    (parsed : PathPattern.parse known none rest = .ok (leading, [])) : '\x7b' ∉ rest := by
  obtain ⟨reading, proper, whole, -, none, -⟩ := parse_reading (by simp) parsed
  rw [List.map_eq_nil_iff] at none
  have text : reading.leading = rest := by
    simpa [TemplateReading.text, writtenPieces, none, pendingText] using whole
  exact text ▸ proper.leading

/-- A closing brace of its own is noticed behind the last variable. -/
theorem parse_last {known : List String} {state : Option (List Char)} {rest leading : List Char}
    {pieces : List (String × List Char)}
    (parsed : PathPattern.parse known state rest = .ok (leading, pieces)) :
    '\x7d' ∉ (pieces.map Prod.snd).getLastD leading := by
  fun_induction PathPattern.parse known state rest generalizing leading pieces with
  | case1 => cases parsed; simp
  | case2 => cases parsed
  | case3 _ _ ih => exact ih parsed
  | case4 => cases parsed
  | case5 _ character rest _ unnoticed ih =>
      obtain ⟨⟨literal, others⟩, found, same⟩ := map_eq_ok.1 parsed
      simp only [Prod.mk.injEq] at same
      obtain ⟨rfl, rfl⟩ := same
      have later := ih found
      cases others with
      | nil =>
          -- No variable follows, so the scan has looked for this character.
          have closing : character ≠ '\x7d' := by
            rintro rfl
            exact unnoticed ⟨rfl, parse_literal_only found⟩
          simpa [closing.symm] using later
      | cons piece others => simpa [List.getLastD_eq_getLast?, List.getLast?_cons] using later
  | case6 => cases parsed
  | case7 => cases parsed
  | case8 =>
      rename_i ih
      obtain ⟨⟨literal, others⟩, found, same⟩ := map_eq_ok.1 parsed
      cases same
      have later := ih found
      simpa [List.getLastD_eq_getLast?, List.getLast?_cons] using later
  | case9 _ _ _ _ _ ih => exact ih parsed

theorem writes_of_compile {template : String} {pattern : PathPattern}
    (accepted : PathPattern.compile template = .ok pattern) :
    ∃ reading : TemplateReading, reading.Writes template ∧ '\x7d' ∉ reading.lastLiteral ∧
      pattern = reading.pattern template := by
  obtain ⟨reading, proper, whole, same, distinct⟩ := compile_reading accepted
  obtain ⟨⟨leading, pieces⟩, parsed, made⟩ := map_eq_ok.1 accepted
  rw [same] at made
  obtain ⟨front, read⟩ : reading.leading = leading ∧
      (reading.pieces.map fun piece => (nameOf piece.1, piece.2)) = pieces := by
    simpa [TemplateReading.pattern, eq_comm] using made
  refine ⟨reading, ⟨proper, ?_, distinct, whole⟩, ?_, same⟩
  · have named := parse_names parsed
    rw [← read, List.map_map] at named
    exact named
  · have last := parse_last parsed
    rw [← read, ← front, List.map_map] at last
    exact last

end TemplateReading

open TemplateReading

/-- A template compiles exactly if it is written as literals and variables whose names are not empty
and differ, with no closing brace behind the last variable, and the pattern is that reading. The
templates in whose literals there is no brace at all are those whose patterns hold none. -/
theorem compile_iff_written (template : String) :
    (∀ pattern, PathPattern.compile template = .ok pattern ↔
      ∃ reading : TemplateReading, reading.Writes template ∧ '\x7d' ∉ reading.lastLiteral ∧
        pattern = reading.pattern template) ∧
    ((∃ reading : TemplateReading, reading.Writes template ∧ reading.Balanced) ↔
      ∃ pattern, PathPattern.compile template = .ok pattern ∧ '\x7d' ∉ pattern.leading ∧
        ∀ piece ∈ pattern.pieces, '\x7d' ∉ piece.2) := by
  have compiles {reading : TemplateReading} (writes : reading.Writes template)
      (closed : '\x7d' ∉ reading.lastLiteral) :
      PathPattern.compile template = .ok (reading.pattern template) :=
    reading_compiles writes.proper writes.whole writes.named writes.distinct closed
  refine ⟨?_, ?_, ?_⟩
  · intro pattern
    refine ⟨writes_of_compile, ?_⟩
    rintro ⟨reading, writes, closed, rfl⟩
    exact compiles writes closed
  · rintro ⟨reading, writes, balanced⟩
    exact ⟨_, compiles writes balanced.last, balanced.1, List.forall_mem_map.2 balanced.2⟩
  · rintro ⟨pattern, accepted, front, behind⟩
    obtain ⟨reading, writes, -, rfl⟩ := writes_of_compile accepted
    refine ⟨reading, writes, front, ?_⟩
    intro piece member
    exact behind _ (List.mem_map_of_mem member)

/-- A closing brace that nothing opens, before a variable. -/
theorem stray_brace_compiles :
    (∃ pattern, PathPattern.compile "/\x7d\x7ba\x7d" = .ok pattern) ∧
      ¬∃ reading : TemplateReading, reading.Writes "/\x7d\x7ba\x7d" ∧ reading.Balanced := by
  have proper : TemplateReading.Proper ⟨"/\x7d".toList, [("a".toList, [])]⟩ :=
    ⟨by decide, by decide, by decide⟩
  refine ⟨⟨_, reading_compiles proper (by decide) (by decide) (by decide) (by decide)⟩, ?_⟩
  rintro ⟨reading, writes, balanced⟩
  have read := reading_unique writes.proper proper (writes.whole.trans (by decide))
  subst read
  exact balanced.1 (by decide)

end RequestDispatch
