import RequestDispatch.Sorting.Runs

/-!
The stable sort. Few items are sorted by insertion. More are cut into runs; stretches in which no
run is found are divided around a pivot until the parts are blocks. There is no result when the
test of two items is found to contradict itself; few items are sorted under any test.
-/

namespace RequestDispatch
namespace Sorting

def middlePosition {α : Type} (less : α → α → Bool) (items : Array α) (first second third : Nat) :
    Nat :=
  match items[first]?, items[second]?, items[third]? with
  | some one, some two, some three =>
    let belowSecond := less one two
    if belowSecond == less one three then
      if less two three == belowSecond then second else third
    else first
  | _, _, _ => first

/-- The position of the pivot among eight stretches of length `eighth` from `start` on: the middle
of three candidates, each chosen the same way where the stretches are long. -/
def pivotPosition {α : Type} (less : α → α → Bool) (items : Array α) (start eighth : Nat) : Nat :=
  if 8 ≤ eighth then
    middlePosition less items (pivotPosition less items start (eighth / 8))
      (pivotPosition less items (start + eighth * 4) (eighth / 8))
      (pivotPosition less items (start + eighth * 7) (eighth / 8))
  else middlePosition less items start (start + eighth * 4) (start + eighth * 7)
termination_by eighth
decreasing_by all_goals omega

/-- The items in order; equal items keep their order. They are divided around a pivot into the
smaller ones and the rest. When none is smaller, or when the pivot is not greater than the one
before it on whose right side it stands, those equal to it are set apart instead. After so many
divisions the parts are sorted by runs. -/
def partitionSort? {α : Type} (less : α → α → Bool) :
    Nat → Option α → List α → Option (List α)
  | 0, _, items =>
    if items.length ≤ blockLimit then blockSort? less items else runSort? less some true items
  | limit + 1, ancestor, items =>
    if items.length ≤ blockLimit then blockSort? less items
    else
      let position := pivotPosition less items.toArray 0 (items.length / 8)
      let before := items.take position
      match items.drop position with
      | [] => some (insertionSort less items)
      | pivot :: after =>
        let smaller := (before ++ after).filter fun item => less item pivot
        if ancestor.any (fun other => !less other pivot) || smaller.isEmpty then
          let isLow := fun item => !less pivot item
          let low := before.filter isLow ++ pivot :: after.filter isLow
          let greater := (before ++ after).filter fun item => less pivot item
          (partitionSort? less limit none greater).map fun sorted => low ++ sorted
        else
          let isHigh := fun item => !less item pivot
          let high := before.filter isHigh ++ pivot :: after.filter isHigh
          (partitionSort? less limit ancestor smaller).bind fun sorted =>
            (partitionSort? less limit (some pivot) high).map fun more => sorted ++ more

/-- The items in order; equal items keep their order. There is no result when the test of two items
is found to contradict itself. -/
def stableSort? {α : Type} (less : α → α → Bool) (items : List α) : Option (List α) :=
  if items.length ≤ 20 then some (insertionSort less items)
  else
    let divide (part : List α) := partitionSort? less (2 * Nat.log2 part.length) none part
    runSort? less divide (items.length ≤ 2 * blockLimit) items

end Sorting
end RequestDispatch
