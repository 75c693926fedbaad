import RequestDispatch.Binding.Fetcher
import Mathlib.Data.List.TakeWhile

/-!
What the text of a default lists: values between commas, or pairs between commas with an equals sign
each.
-/

namespace RequestDispatch

namespace Text

theorem splitOn_eq (separator : Char) (text : List Char) :
    splitOn separator text = text.splitOn separator := by
  induction text with
  | nil => rfl
  | cons character rest ih =>
      obtain ⟨piece, pieces, found⟩ := List.exists_cons_of_ne_nil (splitOn_ne_nil separator rest)
      rw [List.splitOn, List.splitOnP_cons_eq_if_modifyHead, ← List.splitOn, ← ih, splitOn, found]
      by_cases same : character = separator
      · simp [same]
      · rw [if_neg same, if_neg (by simpa using same)]
        rfl

theorem splitOnce_eq (separator : Char) (text : List Char) :
    splitOnce separator text =
      if separator ∈ text then
        some (text.takeWhile (· ≠ separator), (text.dropWhile (· ≠ separator)).tail)
      else none := by
  induction text with
  | nil => rfl
  | cons character rest ih =>
      rw [splitOnce, ih]
      by_cases same : character = separator
      · simp [same]
      · simp only [same, if_false, List.mem_cons, Ne.symm same, false_or, List.takeWhile_cons,
          List.dropWhile_cons]
        split <;> simp [same]

end Text

def listedValues (text : String) : List String :=
  ((text.toList.splitOn ',').map fun piece => Text.trim (String.ofList piece)).filter (· ≠ "")

/-- The pairs that a text lists between commas. The key of each stands before its first equals
sign, and what has none is all key. -/
def listedPairs (text : String) : List (String × String) :=
  ((text.toList.splitOn ',').filter fun piece => Text.trim (String.ofList piece) ≠ "").map
    fun piece => (Text.trim (String.ofList (piece.takeWhile (· ≠ '='))),
      Text.trim (String.ofList (piece.dropWhile (· ≠ '=')).tail))

theorem not_isEmpty_eq (text : String) : (!text.isEmpty) = decide (text ≠ "") := by
  rw [Bool.eq_iff_iff]
  simp

theorem split_default_eq (text : String) : splitDefault text = listedValues text := by
  simp only [splitDefault, listedValues, Text.splitOn_eq, not_isEmpty_eq]

theorem split_default_pairs_eq (text : String) : splitDefaultPairs text = listedPairs text := by
  simp only [splitDefaultPairs, listedPairs, Text.splitOn_eq, not_isEmpty_eq]
  apply List.map_congr_left
  intro piece _
  rw [Text.splitOnce_eq]
  by_cases member : '=' ∈ piece
  · rw [if_pos member]
  · have whole : ∀ character ∈ piece, decide (character ≠ '=') = true := by
      intro character inside
      simpa using ne_of_mem_of_not_mem inside member
    rw [if_neg member, List.takeWhile_eq_self_iff.2 whole, List.dropWhile_eq_nil_iff.2 whole]
    rfl

end RequestDispatch
