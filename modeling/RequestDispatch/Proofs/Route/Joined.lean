import RequestDispatch.Proofs.Route.Address
import RequestDispatch.Proofs.Route.Mapping

/-!
Templates with a literal put in front of them. The route takes a path if the path begins with the
literal, spelled as routes spell it, and the route itself takes what stands behind.
-/

namespace RequestDispatch

theorem spells_ascii {literal text : List Char}
    (ascii : ∀ character ∈ literal, character.toNat < 0x80) :
    Spells literal text ↔ text = literal := by
  constructor
  · intro spells
    induction spells with
    | nil => rfl
    | plain _ _ ih => rw [ih (List.forall_mem_cons.1 ascii).2]
    | escaped beyond =>
        have below := (List.forall_mem_cons.1 ascii).1
        exact absurd below (Nat.not_lt.2 beyond)
  · rintro rfl
    induction text with
    | nil => exact .nil
    | cons character text ih =>
        have parts := List.forall_mem_cons.1 ascii
        exact .plain parts.1 (ih parts.2)

/-- A text without braces, which templates take for a literal. -/
def Braceless (text : String) : Prop := '\x7b' ∉ text.toList ∧ '\x7d' ∉ text.toList

namespace PathPattern

variable {front : String}

/-- What stands in a path behind a literal as patterns spell it. -/
def behind? (front path : String) : Option String :=
  (dropLiteral (front.toList.flatMap spell) path.toList).map String.ofList

def under (front : String) (pattern : PathPattern) : PathPattern :=
  { pattern with
    template := front ++ pattern.template, leading := front.toList ++ pattern.leading }

theorem drop_literal_append (first second : List Spelling) (path : List Char) :
    dropLiteral (first ++ second) path = (dropLiteral first path).bind (dropLiteral second) := by
  induction first generalizing path with
  | nil => rfl
  | cons spelling first ih =>
      cases path with
      | nil => rfl
      | cons character path =>
          rw [List.cons_append, dropLiteral, dropLiteral]
          by_cases admitted : spelling.admits character = true
          · rw [if_pos admitted, if_pos admitted]
            exact ih path
          · rw [if_neg admitted, if_neg admitted]
            rfl

theorem behind_eq_some {path rest : String} :
    behind? front path = some rest ↔
      ∃ spelled : String, Spells front.toList spelled.toList ∧ path = spelled ++ rest := by
  unfold behind?
  constructor
  · intro found
    obtain ⟨more, dropped, rfl⟩ := Option.map_eq_some_iff.1 found
    obtain ⟨spelled, divided, fits⟩ := dropLiteral_eq_some.1 dropped
    refine ⟨String.ofList spelled, ?_, ?_⟩
    · rw [String.toList_ofList]
      exact spelled_literal.1 fits
    · apply String.toList_inj.1
      simpa using divided
  · rintro ⟨spelled, spells, rfl⟩
    have divided : (spelled ++ rest).toList = spelled.toList ++ rest.toList := String.toList_append
    have dropped := dropLiteral_eq_some.2 ⟨spelled.toList, divided, spelled_literal.2 spells⟩
    rw [dropped, Option.map_some, String.ofList_toList]

theorem under_matches (pattern : PathPattern) (path : String) :
    (pattern.under front).match? path = (behind? front path).bind pattern.match? := by
  unfold match? captures? behind? under
  dsimp only
  rw [List.flatMap_append, drop_literal_append]
  cases dropLiteral (front.toList.flatMap spell) path.toList with
  | none => rfl
  | some rest => simp [names]

theorem compile_under (plain : Braceless front) (template : String) :
    compile (front ++ template) = (compile template).map (under front) := by
  unfold compile
  rw [String.toList_append, TemplateReading.parse_literal template.toList plain.1
    fun member => absurd member plain.2]
  cases parse [] none template.toList <;> rfl

theorem spell_ne_nil (character : Char) : spell character ≠ [] := by
  unfold spell
  split
  · exact List.cons_ne_nil _ _
  · obtain ⟨first, tails, encoded, -⟩ := Text.next_char_encode character []
    rw [Text.utf8_bytes_eq, String.toList_ofList, List.flatMap_singleton, encoded,
      List.flatMap_cons]
    exact List.cons_ne_nil _ _

theorem match_empty {template : String} {pattern : PathPattern} (written : template ≠ "")
    (compiled : compile template = .ok pattern) : pattern.match? "" = none := by
  obtain ⟨reading, -, text, rfl, -⟩ := TemplateReading.compile_reading compiled
  rw [match?, TemplateReading.captures_pattern]
  obtain ⟨leading, pieces⟩ := reading
  cases leading with
  | cons character leading =>
      obtain ⟨spelling, others, same⟩ := List.exists_cons_of_ne_nil (spell_ne_nil character)
      rw [List.flatMap_cons, same]
      rfl
  | nil =>
      cases pieces with
      | cons piece pieces => rfl
      | nil => exact absurd (String.toList_eq_nil_iff.1 text.symm) written

theorem match_slashed {rest path : String} {pattern : PathPattern} {found : PathMatch}
    (written : rest ≠ "") (compiled : compile ("/" ++ rest) = .ok pattern)
    (matched : pattern.match? path = some found) :
    ∃ more, more ≠ "" ∧ path = "/" ++ more := by
  rw [compile_under ⟨by decide, by decide⟩] at compiled
  obtain ⟨inner, made, rfl⟩ := map_eq_ok.1 compiled
  rw [under_matches] at matched
  obtain ⟨more, begins, goesOn⟩ := Option.bind_eq_some_iff.1 matched
  obtain ⟨spelled, spells, divided⟩ := behind_eq_some.1 begins
  have ascii : ∀ character ∈ "/".toList, character.toNat < 0x80 :=
    List.forall_mem_singleton.2 (by decide)
  have slash : spelled = "/" := String.toList_inj.1 ((spells_ascii ascii).1 spells)
  refine ⟨more, ?_, slash ▸ divided⟩
  rintro rfl
  rw [match_empty written made] at goesOn
  cases goesOn

end PathPattern

namespace RouteMapping

variable {front : String}

def under (front : String) (mapping : RouteMapping) : RouteMapping :=
  { mapping with patterns := mapping.patterns.map (PathPattern.under front) }

theorem under_declares (mapping : RouteMapping) (name : String) :
    (mapping.under front).declaresVariable name = mapping.declaresVariable name := by
  unfold declaresVariable under
  rw [List.isEmpty_map, List.all_map]
  rfl

theorem under_tests (mapping : RouteMapping) (request : Request) (path : String) :
    (mapping.under front).test request path =
      (PathPattern.behind? front path).bind (mapping.test request) := by
  have matched : (mapping.under front).patterns.findSome? (fun pattern => pattern.match? path) =
      (PathPattern.behind? front path).bind fun rest =>
        mapping.patterns.findSome? fun pattern => pattern.match? rest := by
    unfold under
    rw [List.findSome?_map]
    simp only [Function.comp_def, PathPattern.under_matches]
    cases PathPattern.behind? front path <;> simp
  unfold test
  rw [matched]
  cases PathPattern.behind? front path <;> rfl

end RouteMapping

namespace RouteDeclaration

variable {front : String}

def under (front : String) (declaration : RouteDeclaration) : RouteDeclaration :=
  { declaration with paths := declaration.paths.map (front ++ ·) }

theorem compile_pattern_under (plain : Braceless front) (template : String) :
    (compilePattern (front ++ template)).toOption =
      (compilePattern template).toOption.map (PathPattern.under front) := by
  unfold compilePattern
  rw [PathPattern.compile_under plain]
  cases PathPattern.compile template <;> rfl

theorem compile_patterns_under (plain : Braceless front) (templates : List String) :
    ((templates.map (front ++ ·)).mapM compilePattern).toOption =
      (templates.mapM compilePattern).toOption.map (List.map (PathPattern.under front)) := by
  induction templates with
  | nil => rfl
  | cons template templates ih =>
      rw [List.map_cons, List.mapM_cons, List.mapM_cons, to_option_bind, to_option_bind,
        compile_pattern_under plain]
      simp only [to_option_bind, ih]
      cases (compilePattern template).toOption with
      | none => rfl
      | some pattern => cases (templates.mapM compilePattern).toOption <;> rfl

theorem compile_under (plain : Braceless front) (declaration : RouteDeclaration) :
    (declaration.under front).compile.toOption =
      declaration.compile.toOption.map (RouteMapping.under front) := by
  unfold compile under
  dsimp only
  rw [List.isEmpty_map]
  by_cases pathless : declaration.paths.isEmpty = true
  · rw [if_pos pathless, if_pos pathless]
    rfl
  · rw [if_neg pathless, if_neg pathless, to_option_bind, to_option_bind,
      compile_patterns_under plain]
    cases (declaration.paths.mapM compilePattern).toOption <;> rfl

theorem template_of_mem {declaration : RouteDeclaration} {mapping : RouteMapping}
    (compiled : declaration.compile = .ok mapping) {pattern : PathPattern}
    (member : pattern ∈ mapping.patterns) :
    ∃ template ∈ declaration.paths, PathPattern.compile template = .ok pattern := by
  obtain ⟨patterns, inOrder, rfl⟩ := compile_eq_ok compiled
  exact source_of_mem inOrder member

end RouteDeclaration
end RequestDispatch
