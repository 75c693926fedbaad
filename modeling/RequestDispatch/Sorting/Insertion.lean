/-!
Sorting by insertion. `less` is any test of two items: nothing here asks that it is transitive, and
which of the arrangements an inconsistent test admits is reached is part of what is laid down.
-/

namespace RequestDispatch
namespace Sorting

/-- Puts an item into a list sorted from the greatest down, before the items that are not greater:
among equal items it comes to stand nearest to the front. -/
def insertDescending {α : Type} (less : α → α → Bool) (item : α) : List α → List α
  | [] => [item]
  | head :: rest =>
    if less item head then head :: insertDescending less item rest else item :: head :: rest

/-- Each item in turn moves towards the front past the items it is less than; those in front are
in order already. -/
def insertAll {α : Type} (less : α → α → Bool) (sorted items : List α) : List α :=
  (items.foldl (fun descending item => insertDescending less item descending)
    sorted.reverse).reverse

def insertionSort {α : Type} (less : α → α → Bool) (items : List α) : List α :=
  insertAll less [] items

end Sorting
end RequestDispatch
