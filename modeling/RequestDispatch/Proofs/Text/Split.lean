import Mathlib.Data.List.Basic
import RequestDispatch.Text.Split

/-!
Texts cut at a separator. The first separator is the one with none before it (`splitOnce_append`),
and the last one the one with none behind it (`splitLast_append`).
-/

namespace RequestDispatch
namespace Text

theorem splitOnce_append {separator : Char} {before : List Char} (absent : separator ∉ before)
    (after : List Char) :
    splitOnce separator (before ++ separator :: after) = some (before, after) := by
  induction before with
  | nil => simp [splitOnce]
  | cons character before ih =>
      rw [List.mem_cons, not_or] at absent
      rw [List.cons_append, splitOnce, if_neg (Ne.symm absent.1), ih absent.2]
      rfl

theorem splitOnce_eq_none {separator : Char} {text : List Char} :
    splitOnce separator text = none ↔ separator ∉ text := by
  constructor
  · intro whole member
    obtain ⟨before, after, rfl, absent⟩ := List.eq_append_cons_of_mem member
    rw [splitOnce_append absent] at whole
    cases whole
  · intro absent
    rw [Option.eq_none_iff_forall_ne_some]
    rintro ⟨before, after⟩ found
    exact absent ((splitOnce_eq_some found).1 ▸ List.mem_append_right before List.mem_cons_self)

theorem splitLast_append {separator : Char} {after : List Char} (absent : separator ∉ after)
    (before : List Char) :
    splitLast separator (before ++ separator :: after) = some (before, after) := by
  have behind : separator ∉ after.reverse := by simpa using absent
  have turned : (before ++ separator :: after).reverse =
      after.reverse ++ separator :: before.reverse := by simp
  rw [splitLast, turned, splitOnce_append behind]
  simp

theorem splitLast_eq_none {separator : Char} {text : List Char} :
    splitLast separator text = none ↔ separator ∉ text := by
  rw [splitLast, Option.map_eq_none_iff, splitOnce_eq_none, List.mem_reverse]

theorem last_separator {separator : Char} {text : List Char} (member : separator ∈ text) :
    ∃ before after, text = before ++ separator :: after ∧ separator ∉ after := by
  obtain ⟨after, before, turned, absent⟩ :=
    List.eq_append_cons_of_mem (List.mem_reverse.2 member)
  refine ⟨before.reverse, after.reverse, ?_, by simpa using absent⟩
  rw [← List.reverse_reverse text, turned]
  simp

end Text
end RequestDispatch
