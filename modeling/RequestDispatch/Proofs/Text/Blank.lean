import Mathlib.Data.List.DropRight
import Mathlib.Data.List.TakeWhile
import RequestDispatch.Text.Blank

/-!
Trimmed texts. What trimming leaves stands in the text between characters that are left out
(`trimBoth_within`), and a text without such characters is left of what they surround it with
(`trimBoth_append`).
-/

namespace RequestDispatch
namespace Text

theorem dropWhile_eq_self_iff {test : Char → Bool} {text : List Char} :
    text.dropWhile test = text ↔ ∀ first, text.head? = some first → test first = false := by
  cases text with
  | nil => simp
  | cons character rest => simp [List.dropWhile_eq_self_iff]

theorem trimEnd_eq_self_iff {test : Char → Bool} {text : List Char} :
    trimEnd test text = text ↔ ∀ last, text.getLast? = some last → test last = false := by
  rw [← List.head?_reverse, ← dropWhile_eq_self_iff, trimEnd, List.reverse_eq_iff]

theorem trimEnd_append {test : Char → Bool} (front : List Char) {back : List Char}
    (left : trimEnd test back ≠ []) :
    trimEnd test (front ++ back) = front ++ trimEnd test back := by
  have remains : (back.reverse.dropWhile test).isEmpty = false := by
    rw [List.isEmpty_eq_false_iff]
    intro nothing
    exact left (congrArg List.reverse nothing)
  rw [trimEnd, List.reverse_append, List.dropWhile_append, remains, if_neg Bool.false_ne_true,
    List.reverse_append, List.reverse_reverse, trimEnd]

theorem trimEnd_cons (test : Char → Bool) (character : Char) (rest : List Char) :
    trimEnd test (character :: rest) =
      if trimEnd test rest = [] then (if test character then [] else [character])
      else character :: trimEnd test rest := by
  split
  · next nothing =>
    have dropped : ∀ other ∈ rest, test other = true := by
      simpa [trimEnd] using nothing
    rw [← List.singleton_append, trimEnd_append_of_all [character] dropped]
    exact List.rdropWhile_singleton test character
  · next left => exact trimEnd_append [character] left

/-- It makes no difference which end of a text is trimmed first. -/
theorem trimEnd_dropWhile (first last : Char → Bool) (text : List Char) :
    trimEnd last (text.dropWhile first) = (trimEnd last text).dropWhile first := by
  induction text with
  | nil => rfl
  | cons character rest ih =>
      rw [List.dropWhile_cons, trimEnd_cons]
      split
      · next passed =>
        split
        · next nothing =>
          rw [ih, nothing]
          split
          · rfl
          · rw [List.dropWhile_cons, if_pos passed, List.dropWhile_nil]
        · rw [List.dropWhile_cons, if_pos passed, ih]
      · next stays =>
        rw [trimEnd_cons]
        split
        · split
          · rfl
          · rw [List.dropWhile_cons, if_neg stays]
        · rw [List.dropWhile_cons, if_neg stays]

theorem dropWhile_trimEnd (test : Char → Bool) (text : List Char) :
    (trimEnd test (text.dropWhile test)).dropWhile test = trimEnd test (text.dropWhile test) := by
  rw [← trimEnd_dropWhile, List.dropWhile_idempotent]

theorem trimBoth_ends (test : Char → Bool) (text : List Char) :
    (∀ first, (trimBoth test text).head? = some first → test first = false) ∧
      ∀ last, (trimBoth test text).getLast? = some last → test last = false :=
  ⟨dropWhile_eq_self_iff.1 (dropWhile_trimEnd test text),
    trimEnd_eq_self_iff.1 (List.rdropWhile_idempotent test _)⟩

theorem trimBoth_eq_self_iff {test : Char → Bool} {text : List Char} :
    trimBoth test text = text ↔
      (∀ first, text.head? = some first → test first = false) ∧
        ∀ last, text.getLast? = some last → test last = false := by
  constructor
  · intro same
    exact same ▸ trimBoth_ends test text
  · rintro ⟨first, last⟩
    rw [trimBoth, dropWhile_eq_self_iff.2 first, trimEnd_eq_self_iff.2 last]

theorem trimBoth_idempotent (test : Char → Bool) (text : List Char) :
    trimBoth test (trimBoth test text) = trimBoth test text :=
  trimBoth_eq_self_iff.2 (trimBoth_ends test text)

/-- Trimming does not see a change of characters that the test does not see. -/
theorem trimBoth_map {test : Char → Bool} {change : Char → Char}
    (unseen : ∀ character, test (change character) = test character) (text : List Char) :
    trimBoth test (text.map change) = (trimBoth test text).map change := by
  have same : test ∘ change = test := funext unseen
  rw [trimBoth, trimBoth, trimEnd, trimEnd, List.dropWhile_map, same, ← List.map_reverse,
    List.dropWhile_map, same, ← List.map_reverse]

theorem mem_trimBoth {test : Char → Bool} {text : List Char} {character : Char}
    (member : character ∈ trimBoth test text) : character ∈ text := by
  have inside : character ∈ text.dropWhile test :=
    (List.rdropWhile_prefix test _).subset member
  exact (List.dropWhile_suffix test).subset inside

theorem trimBoth_eq_self {test : Char → Bool} {text : List Char}
    (stays : ∀ character ∈ text, test character = false) : trimBoth test text = text := by
  rw [trimBoth_eq_self_iff]
  constructor
  · intro first begins
    exact stays first (List.mem_of_head? begins)
  · intro last ends
    exact stays last (List.mem_of_getLast? ends)

/-- Trimming does not see what it leaves out around a text. -/
theorem trimBoth_surrounded {test : Char → Bool} {before core after : List Char}
    (drops : ∀ character ∈ before ++ after, test character = true) :
    trimBoth test (before ++ core ++ after) = trimBoth test core := by
  rw [List.forall_mem_append] at drops
  rw [trimBoth, trimBoth, List.append_assoc, List.dropWhile_append_of_pos drops.1,
    List.dropWhile_append]
  split
  · next nothing =>
    rw [List.isEmpty_iff.1 nothing, List.dropWhile_eq_nil_iff.2 drops.2]
  · exact trimEnd_append_of_all _ drops.2

theorem trimBoth_append {test : Char → Bool} {before core after : List Char}
    (stays : ∀ character ∈ core, test character = false)
    (drops : ∀ character ∈ before ++ after, test character = true) :
    trimBoth test (before ++ core ++ after) = core :=
  (trimBoth_surrounded drops).trans (trimBoth_eq_self stays)

theorem trimBoth_within (test : Char → Bool) (text : List Char) :
    ∃ before after, text = before ++ trimBoth test text ++ after ∧
      ∀ character ∈ before ++ after, test character = true := by
  have ends : trimBoth test text ++ (text.dropWhile test).rtakeWhile test =
      text.dropWhile test := by
    rw [trimBoth, trimEnd, List.rtakeWhile, ← List.reverse_append, List.takeWhile_append_dropWhile,
      List.reverse_reverse]
  refine ⟨text.takeWhile test, (text.dropWhile test).rtakeWhile test, ?_, ?_⟩
  · rw [List.append_assoc, ends, List.takeWhile_append_dropWhile]
  · rw [List.forall_mem_append]
    exact ⟨fun _ first => List.mem_takeWhile_imp first, fun _ last => List.mem_rtakeWhile_imp last⟩

theorem forall_mem_trimBoth {property : Char → Prop} {test : Char → Bool}
    (dropped : ∀ character, test character = true → property character) (text : List Char) :
    (∀ character ∈ trimBoth test text, property character) ↔
      ∀ character ∈ text, property character := by
  constructor
  · intro left character member
    obtain ⟨before, after, whole, drops⟩ := trimBoth_within test text
    rw [whole, List.append_assoc, List.mem_append, List.mem_append] at member
    rcases member with member | member | member
    · exact dropped character (drops character (List.mem_append_left after member))
    · exact left character member
    · exact dropped character (drops character (List.mem_append_right before member))
  · intro all character member
    exact all character (mem_trimBoth member)

end Text
end RequestDispatch
