/-!
Cutting a text at separators. Pieces are kept even when they are empty, so that joining them with
the separator gives the text back.
-/

namespace RequestDispatch
namespace Text

/-- The pieces between separators; a text without one is a single piece. -/
def splitOn (separator : Char) : List Char → List (List Char)
  | [] => [[]]
  | character :: rest =>
    if character = separator then [] :: splitOn separator rest
    else
      match splitOn separator rest with
      | [] => [[character]]
      | piece :: pieces => (character :: piece) :: pieces

def splitOnce (separator : Char) : List Char → Option (List Char × List Char)
  | [] => none
  | character :: rest =>
    if character = separator then some ([], rest)
    else (splitOnce separator rest).map fun (before, after) => (character :: before, after)

def splitLast (separator : Char) (text : List Char) : Option (List Char × List Char) :=
  (splitOnce separator text.reverse).map fun (after, before) => (before.reverse, after.reverse)

def dropBeginning : List Char → List Char → Option (List Char)
  | [], text => some text
  | _ :: _, [] => none
  | expected :: more, character :: rest =>
    if expected = character then dropBeginning more rest else none

def splitAtPhrase (phrase : List Char) : List Char → Option (List Char × List Char)
  | [] => if phrase.isEmpty then some ([], []) else none
  | character :: rest =>
    match dropBeginning phrase (character :: rest) with
    | some after => some ([], after)
    | none =>
      (splitAtPhrase phrase rest).map fun (before, after) => (character :: before, after)

theorem splitOn_ne_nil (separator : Char) (text : List Char) : splitOn separator text ≠ [] := by
  induction text with
  | nil => simp [splitOn]
  | cons character rest ih =>
    simp only [splitOn]
    split
    · simp
    · split <;> simp

theorem dropBeginning_eq_some {beginning text rest : List Char} :
    dropBeginning beginning text = some rest ↔ text = beginning ++ rest := by
  induction beginning generalizing text with
  | nil => simp [dropBeginning, eq_comm]
  | cons expected more ih =>
    cases text with
    | nil => simp [dropBeginning]
    | cons character tail =>
      by_cases same : expected = character
      · simp [dropBeginning, same, ih]
      · simp [dropBeginning, same, Ne.symm same]

theorem splitOnce_eq_some {separator : Char} {text before after : List Char}
    (found : splitOnce separator text = some (before, after)) :
    text = before ++ separator :: after ∧ separator ∉ before := by
  induction text generalizing before with
  | nil => simp [splitOnce] at found
  | cons character rest ih =>
    simp only [splitOnce] at found
    split at found
    · next same =>
      simp only [Option.some.injEq, Prod.mk.injEq] at found
      simp [← found.1, ← found.2, same]
    · next differs =>
      cases inner : splitOnce separator rest with
      | none => simp [inner] at found
      | some pair =>
        obtain ⟨front, back⟩ := pair
        simp only [inner, Option.map_some, Option.some.injEq, Prod.mk.injEq] at found
        obtain ⟨rfl, rfl⟩ := found
        have := ih inner
        exact ⟨by simp [this.1], by simp [this.2, Ne.symm differs]⟩

end Text
end RequestDispatch
