import RequestDispatch.Dispatch.Dispatcher
import RequestDispatch.Proofs.Text.Blank

/-!
Prefixes of paths in their normal form. Blanks are taken away from both ends of a text, and then
slashes, once each, so that blanks behind the slashes stay (`opened_append`). A normal form is the
root, or begins with a slash and does not end with one; it is its own normal form exactly if it does
not end with a blank, and slashes and blanks around a text make no difference exactly if each blank
comes before the slashes, from either end (`normalize_prefix_laws`).
-/

namespace RequestDispatch

/-- The characters of a prefix behind its slash: nothing for the root. -/
def bareName (text : List Char) : List Char :=
  Text.trimBoth (· = '/') (Text.trimBoth Text.isBlank text)

/-- What is left of a text after the blanks and then the slashes it begins with. -/
def opened (text : List Char) : List Char := (text.dropWhile Text.isBlank).dropWhile (· = '/')

def closed (text : List Char) : List Char :=
  Text.trimEnd (· = '/') (Text.trimEnd Text.isBlank text)

/-- In the text before another one no slash is followed by a blank. -/
def NoBlankBehindSlash (front text : List Char) : Prop :=
  ∀ before after, front = before ++ '/' :: after →
    ∀ next, (after ++ text).head? = some next → Text.isBlank next = false

/-- Slashes between blanks, as the root may be written. -/
def WritesRoot (text : List Char) : Prop :=
  ∃ before slashes after, text = before ++ slashes ++ after ∧
    (∀ character ∈ before ++ after, Text.isBlank character = true) ∧
    ∀ character ∈ slashes, character = '/'

theorem normalize_prefix_toList (text : String) :
    (normalizePrefix text).toList =
      if bareName text.toList = [] then [] else '/' :: bareName text.toList := by
  have bare : Text.trimBoth (fun character => decide (character = '/')) (Text.trim text).toList =
      bareName text.toList := by
    rw [Text.trim, String.toList_ofList, bareName]
  unfold normalizePrefix
  dsimp only
  rw [bare]
  by_cases nothing : bareName text.toList = []
  · rw [if_pos nothing, nothing]
    rfl
  · rw [if_neg nothing, List.isEmpty_eq_false_iff.2 nothing]
    exact String.toList_ofList

theorem normalize_prefix_eq_iff {text other : String} :
    normalizePrefix text = normalizePrefix other ↔
      bareName text.toList = bareName other.toList := by
  rw [← String.toList_inj, normalize_prefix_toList, normalize_prefix_toList]
  constructor
  · intro same
    split at same <;> split at same
    · next root other => rw [root, other]
    · cases same
    · cases same
    · exact (List.cons.inj same).2
  · intro same
    rw [same]

theorem normalize_prefix_eq_empty {text : String} :
    normalizePrefix text = "" ↔ bareName text.toList = [] := by
  rw [← String.toList_inj, normalize_prefix_toList, String.toList_empty]
  split
  · next root => exact iff_of_true rfl root
  · next named => exact iff_of_false (List.cons_ne_nil _ _) named

theorem bare_name_eq (text : List Char) : bareName text = closed (opened text) := by
  rw [bareName, closed, opened, Text.trimEnd_dropWhile]
  rfl

theorem closed_eq (text : List Char) : closed text = (opened text.reverse).reverse := by
  simp [closed, opened, Text.trimEnd]

theorem opened_suffix (text : List Char) : opened text <:+ text :=
  (List.dropWhile_suffix _).trans (List.dropWhile_suffix _)

theorem dropWhile_slash {text : List Char} (single : text.head? ≠ some '/') :
    text.dropWhile (· = '/') = text := by
  rw [Text.dropWhile_eq_self_iff]
  intro first begins
  refine decide_eq_false ?_
  rintro rfl
  exact single begins

theorem trimEnd_slash {text : List Char} (single : text.getLast? ≠ some '/') :
    Text.trimEnd (· = '/') text = text := by
  rw [Text.trimEnd_eq_self_iff]
  intro last ends
  refine decide_eq_false ?_
  rintro rfl
  exact single ends

theorem opened_blank {character : Char} (blank : Text.isBlank character = true)
    (text : List Char) : opened (character :: text) = opened text := by
  rw [opened, List.dropWhile_cons_of_pos blank, opened]

theorem opened_slash (text : List Char) : opened ('/' :: text) = text.dropWhile (· = '/') := by
  rw [opened, List.dropWhile_cons_of_neg (by decide), List.dropWhile_cons_of_pos (by decide)]

theorem opened_ne_self {next : Char} {text : List Char} (begins : text.head? = some next)
    (blank : Text.isBlank next = true) : opened text ≠ text := by
  obtain ⟨rest, rfl⟩ := List.head?_eq_some_iff.1 begins
  intro same
  have shorter := (opened_suffix rest).length_le
  rw [← opened_blank blank, same, List.length_cons] at shorter
  omega

theorem no_blank_nil (text : List Char) : NoBlankBehindSlash [] text := by
  intro before after divided
  simp at divided

theorem no_blank_cons {character : Char} {front text : List Char} :
    NoBlankBehindSlash (character :: front) text ↔
      (character = '/' → ∀ next, (front ++ text).head? = some next → Text.isBlank next = false) ∧
        NoBlankBehindSlash front text := by
  constructor
  · intro clear
    constructor
    · rintro rfl
      exact clear [] front rfl
    · rintro before after rfl
      exact clear (character :: before) after rfl
  · rintro ⟨first, others⟩ before after divided
    cases before with
    | nil =>
        obtain ⟨same, rfl⟩ := List.cons.inj divided
        exact first same
    | cons other before => exact others before after (List.cons.inj divided).2

theorem no_blank_congr {front text other : List Char} (begins : text.head? = other.head?) :
    NoBlankBehindSlash front text ↔ NoBlankBehindSlash front other := by
  simp only [NoBlankBehindSlash, List.head?_append, begins]

/-- What stands before a text is taken away with the blanks and slashes of the text, except for a
blank behind a slash and all that follows it. -/
theorem opened_append {front : List Char}
    (edge : ∀ character ∈ front, character = '/' ∨ Text.isBlank character = true)
    (text : List Char) :
    ∃ lead, opened (front ++ text) = lead ++ opened text ∧
      (lead = [] ↔ NoBlankBehindSlash front text) := by
  induction front with
  | nil => exact ⟨[], rfl, iff_of_true rfl (no_blank_nil text)⟩
  | cons character front ih =>
      rw [List.forall_mem_cons] at edge
      obtain ⟨lead, whole, clear⟩ := ih edge.2
      rw [no_blank_cons]
      rcases edge.1 with rfl | blank
      · rw [List.cons_append, opened_slash]
        by_cases free : ∀ next, (front ++ text).head? = some next → Text.isBlank next = false
        · rw [opened, Text.dropWhile_eq_self_iff.2 free] at whole
          refine ⟨lead, whole, ?_⟩
          rw [clear]
          exact ⟨fun others => ⟨fun _ => free, others⟩, And.right⟩
        · -- A blank follows the slash: it stays, and so does all that the text begins with.
          simp only [not_forall, Bool.not_eq_false] at free
          obtain ⟨next, begins, blank⟩ := free
          have single : (front ++ text).head? ≠ some '/' := by
            rw [begins]
            rintro ⟨⟩
            exact absurd blank (by decide)
          obtain ⟨hidden, divided⟩ := opened_suffix text
          have kept : (front ++ text).dropWhile (· = '/') = front ++ hidden ++ opened text := by
            rw [dropWhile_slash single, List.append_assoc, divided]
          refine ⟨front ++ hidden, kept, iff_of_false ?_ ?_⟩
          · intro nothing
            obtain ⟨rfl, rfl⟩ := List.append_eq_nil_iff.1 nothing
            exact opened_ne_self begins blank divided
          · rintro ⟨first, -⟩
            rw [first rfl next begins] at blank
            cases blank
      · have other : character ≠ '/' := by
          rintro rfl
          exact absurd blank (by decide)
        refine ⟨lead, (opened_blank blank _).trans whole, ?_⟩
        rw [clear]
        exact ⟨fun others => ⟨fun same => absurd same other, others⟩, And.right⟩

theorem closed_append {back : List Char}
    (edge : ∀ character ∈ back, character = '/' ∨ Text.isBlank character = true)
    (text : List Char) :
    ∃ trail, closed (text ++ back) = closed text ++ trail ∧
      (trail = [] ↔ NoBlankBehindSlash back.reverse text.reverse) := by
  have turned : ∀ character ∈ back.reverse, character = '/' ∨ Text.isBlank character = true :=
    fun character member => edge character (List.mem_reverse.1 member)
  obtain ⟨lead, whole, clear⟩ := opened_append turned text.reverse
  refine ⟨lead.reverse, ?_, by rw [List.reverse_eq_nil_iff, clear]⟩
  rw [closed_eq, closed_eq, List.reverse_append, whole, List.reverse_append]

theorem opened_append_left {text : List Char} (left : opened text ≠ []) (back : List Char) :
    opened (text ++ back) = opened text ++ back := by
  have blanks : text.dropWhile Text.isBlank ≠ [] := by
    intro nothing
    exact left (by rw [opened, nothing, List.dropWhile_nil])
  rw [opened, List.dropWhile_append, if_neg (by simpa using blanks), List.dropWhile_append,
    ← opened, if_neg (by simpa using left)]

theorem closed_append_left (front : List Char) {text : List Char} (left : closed text ≠ []) :
    closed (front ++ text) = front ++ closed text := by
  have turned : opened text.reverse ≠ [] := by
    intro nothing
    exact left (by rw [closed_eq, nothing, List.reverse_nil])
  rw [closed_eq, closed_eq, List.reverse_append, opened_append_left turned, List.reverse_append,
    List.reverse_reverse]

/-- Slashes and blanks around a text that is not the root leave the name as it is exactly if no
blank stands behind a slash, from either end. -/
theorem bare_name_surrounded {front text back : List Char}
    (before : ∀ character ∈ front, character = '/' ∨ Text.isBlank character = true)
    (after : ∀ character ∈ back, character = '/' ∨ Text.isBlank character = true)
    (named : bareName text ≠ []) :
    bareName (front ++ text ++ back) = bareName text ↔
      NoBlankBehindSlash front text ∧ NoBlankBehindSlash back.reverse text.reverse := by
  rw [bare_name_eq] at named
  have left : opened text ≠ [] := by
    intro nothing
    exact named (by rw [nothing]; rfl)
  obtain ⟨hidden, divided⟩ := opened_suffix text
  obtain ⟨lead, front_opened, front_clear⟩ := opened_append before (text ++ back)
  obtain ⟨trail, back_closed, back_clear⟩ := closed_append after (opened text)
  have both : closed (opened text ++ back) ≠ [] := by
    rw [back_closed]
    exact List.append_ne_nil_of_left_ne_nil named trail
  have whole : bareName (front ++ text ++ back) = lead ++ bareName text ++ trail := by
    rw [bare_name_eq, bare_name_eq, List.append_assoc, front_opened, opened_append_left left,
      closed_append_left lead both, back_closed, List.append_assoc]
  have nonempty : text ≠ [] := by
    rintro rfl
    exact left rfl
  have begins : (text ++ back).head? = text.head? := by
    rw [List.head?_append, List.head?_eq_some_head nonempty, Option.some_or]
  have ends : (opened text).reverse.head? = text.reverse.head? := by
    nth_rewrite 2 [← divided]
    rw [List.head?_reverse, List.head?_reverse, List.getLast?_append,
      List.getLast?_eq_some_getLast left, Option.some_or]
  rw [whole, ← no_blank_congr begins, ← no_blank_congr ends, ← front_clear, ← back_clear]
  constructor
  · intro same
    have lengths := congrArg List.length same
    simp only [List.length_append] at lengths
    exact ⟨List.length_eq_zero_iff.1 (by omega), List.length_eq_zero_iff.1 (by omega)⟩
  · rintro ⟨rfl, rfl⟩
    simp

theorem bare_name_eq_nil {text : List Char} : bareName text = [] ↔ WritesRoot text := by
  constructor
  · intro nothing
    obtain ⟨before, after, whole, blanks⟩ := Text.trimBoth_within Text.isBlank text
    obtain ⟨first, last, inner, slashes⟩ :=
      Text.trimBoth_within (· = '/') (Text.trimBoth Text.isBlank text)
    rw [← bareName, nothing, List.append_nil] at inner
    refine ⟨before, Text.trimBoth Text.isBlank text, after, whole, blanks, ?_⟩
    rw [inner]
    intro character member
    exact of_decide_eq_true (slashes character member)
  · rintro ⟨before, slashes, after, rfl, blanks, bare⟩
    have unblank : ∀ character ∈ slashes, Text.isBlank character = false := by
      intro character member
      rw [bare character member]
      decide
    rw [bareName, Text.trimBoth_append unblank blanks, Text.trimBoth,
      List.dropWhile_eq_nil_iff.2 fun character member => decide_eq_true (bare character member)]
    rfl

theorem bare_name_slash {name : List Char} (single : name.head? ≠ some '/') :
    bareName ('/' :: name) = closed name := by
  rw [bare_name_eq, opened_slash, dropWhile_slash single]

theorem closed_eq_self_iff {name : List Char} (ends : name.getLast? ≠ some '/') :
    closed name = name ↔ ∀ last, name.getLast? = some last → Text.isBlank last = false := by
  rw [← Text.trimEnd_eq_self_iff]
  constructor
  · intro same
    have inner : closed name <+: Text.trimEnd Text.isBlank name := List.rdropWhile_prefix _ _
    have outer : Text.trimEnd Text.isBlank name <+: name := List.rdropWhile_prefix _ _
    rw [same] at inner
    exact (inner.eq_of_length_le outer.length_le).symm
  · intro same
    rw [closed, same, trimEnd_slash ends]

theorem bare_name_ends (text : List Char) :
    (bareName text).head? ≠ some '/' ∧ (bareName text).getLast? ≠ some '/' := by
  obtain ⟨first, last⟩ := Text.trimBoth_ends (· = '/') (Text.trimBoth Text.isBlank text)
  constructor
  · intro begins
    exact absurd (first '/' begins) (by decide)
  · intro ends
    exact absurd (last '/' ends) (by decide)

theorem normalize_prefix_last {text : String} (named : normalizePrefix text ≠ "") :
    (normalizePrefix text).toList.getLast? = (bareName text.toList).getLast? := by
  have name : bareName text.toList ≠ [] := mt normalize_prefix_eq_empty.2 named
  rw [normalize_prefix_toList, if_neg name, List.getLast?_cons,
    List.getLast?_eq_some_getLast name, Option.getD_some]

theorem normalize_prefix_shape (text : String) :
    normalizePrefix text = "" ∨ (normalizePrefix text).toList.head? = some '/' ∧
      (normalizePrefix text).toList.getLast? ≠ some '/' := by
  by_cases root : normalizePrefix text = ""
  · exact .inl root
  · refine .inr ⟨?_, ?_⟩
    · rw [normalize_prefix_toList, if_neg (mt normalize_prefix_eq_empty.2 root), List.head?_cons]
    · rw [normalize_prefix_last root]
      exact (bare_name_ends text.toList).2

theorem normalize_prefix_again (text : String) :
    normalizePrefix (normalizePrefix text) = normalizePrefix text ↔
      ∀ last, (normalizePrefix text).toList.getLast? = some last → Text.isBlank last = false := by
  by_cases root : normalizePrefix text = ""
  · rw [root]
    exact iff_of_true (by decide +kernel) (by simp)
  · obtain ⟨single, ends⟩ := bare_name_ends text.toList
    rw [normalize_prefix_eq_iff, normalize_prefix_last root, normalize_prefix_toList,
      if_neg (mt normalize_prefix_eq_empty.2 root), bare_name_slash single,
      closed_eq_self_iff ends]

/-- A prefix in normal form is empty, or it starts with a slash and does not end with one. It has
itself for its normal form exactly if it does not end with a blank. What consists of slashes and
blanks may stand around a text with another normal form than the root exactly if no blank comes
behind a slash on the way to the text, from either end; around the root, exactly if all there is are
slashes between blanks. -/
theorem normalize_prefix_laws (text : String) :
    (normalizePrefix text = "" ∨ (normalizePrefix text).toList.head? = some '/' ∧
      (normalizePrefix text).toList.getLast? ≠ some '/') ∧
    (normalizePrefix (normalizePrefix text) = normalizePrefix text ↔
      ∀ last, (normalizePrefix text).toList.getLast? = some last → Text.isBlank last = false) ∧
    ∀ front back : String,
      (∀ character ∈ front.toList, character = '/' ∨ Text.isBlank character = true) →
      (∀ character ∈ back.toList, character = '/' ∨ Text.isBlank character = true) →
        (normalizePrefix text ≠ "" →
          (normalizePrefix (front ++ text ++ back) = normalizePrefix text ↔
            NoBlankBehindSlash front.toList text.toList ∧
              NoBlankBehindSlash back.toList.reverse text.toList.reverse)) ∧
        (normalizePrefix text = "" →
          (normalizePrefix (front ++ text ++ back) = normalizePrefix text ↔
            WritesRoot (front ++ text ++ back).toList)) := by
  refine ⟨normalize_prefix_shape text, normalize_prefix_again text, ?_⟩
  intro front back before after
  constructor
  · intro named
    rw [normalize_prefix_eq_iff, String.toList_append, String.toList_append]
    exact bare_name_surrounded before after (mt normalize_prefix_eq_empty.2 named)
  · intro root
    rw [root, normalize_prefix_eq_empty, bare_name_eq_nil]

/-- Blanks before slashes and slashes before blanks, around a name. -/
theorem api_surrounded :
    (∀ character ∈ " /".toList, character = '/' ∨ Text.isBlank character = true) ∧
      (∀ character ∈ "/ ".toList, character = '/' ∨ Text.isBlank character = true) ∧
      normalizePrefix "api" = "/api" ∧ normalizePrefix (" /" ++ "api" ++ "/ ") = "/api" := by
  have before : ∀ character ∈ " /".toList, character = '/' ∨ Text.isBlank character = true :=
    List.forall_mem_cons.2 ⟨.inr (by decide), List.forall_mem_singleton.2 (.inl rfl)⟩
  have after : ∀ character ∈ "/ ".toList, character = '/' ∨ Text.isBlank character = true :=
    List.forall_mem_cons.2 ⟨.inl rfl, List.forall_mem_singleton.2 (.inr (by decide))⟩
  -- Read towards the name, both ends are a blank and a slash.
  have clear {name : List Char} (begins : ∀ next, name.head? = some next →
      Text.isBlank next = false) : NoBlankBehindSlash [' ', '/'] name := by
    rw [no_blank_cons, no_blank_cons]
    exact ⟨fun slash => absurd slash (by decide), fun _ => begins, no_blank_nil name⟩
  have api : normalizePrefix "api" = "/api" := by decide +kernel
  obtain ⟨-, -, surrounded⟩ := normalize_prefix_laws "api"
  have same := (surrounded " /" "/ " before after).1 (by rw [api]; decide)
  refine ⟨before, after, api, ?_⟩
  rw [same.2, api]
  exact ⟨clear (by simp; decide), clear (by simp; decide)⟩

/-- A blank before the last slash stays at the end, and is taken away when the prefix is normalized
again. -/
theorem blank_before_slash_stays :
    normalizePrefix "/api" = "/api" ∧ normalizePrefix ("/api" ++ " /") = "/api " ∧
      normalizePrefix (normalizePrefix ("/api" ++ " /")) = "/api" := by
  refine ⟨?_, ?_, ?_⟩ <;> decide +kernel

end RequestDispatch
