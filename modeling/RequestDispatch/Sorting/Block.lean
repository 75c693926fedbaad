import RequestDispatch.Sorting.Insertion

/-!
Merging, and the sorting of short blocks. A block is halved, each half is sorted by insertion, and
the halves are merged from both ends at once. There a test that contradicts itself can be found out;
then there is no result.
-/

namespace RequestDispatch
namespace Sorting

/-- Joins two sorted lists. The merge starts at the shorter list's own end: from the front when the
left list is not the longer one, otherwise from the back. -/
def merge {α : Type} (less : α → α → Bool) (left right : List α) : List α :=
  if left.length ≤ right.length then left.merge right fun first second => !less second first
  else (right.reverse.merge left.reverse fun second first => !less second first).reverse

structure Drawn (α : Type) where
  taken : List α
  first : List α
  second : List α

/-- Draws so many items from the heads of two lists, from the second where its head overtakes the
first one's. -/
def draw {α : Type} (overtakes : α → α → Bool) : Nat → List α → List α → Drawn α
  | 0, first, second => ⟨[], first, second⟩
  | _ + 1, [], [] => ⟨[], [], []⟩
  | count + 1, item :: first, [] =>
    let drawn := draw overtakes count first []
    { drawn with taken := item :: drawn.taken }
  | count + 1, [], other :: second =>
    let drawn := draw overtakes count [] second
    { drawn with taken := other :: drawn.taken }
  | count + 1, item :: first, other :: second =>
    if overtakes item other then
      let drawn := draw overtakes count (item :: first) second
      { drawn with taken := other :: drawn.taken }
    else
      let drawn := draw overtakes count first (other :: second)
      { drawn with taken := item :: drawn.taken }

/-- Joins two sorted halves, the right one as long as the left or one longer. As many items as the
left half has are drawn from the front and as many from the back; the odd one stands between. When
the test contradicts itself, the two draws can meet in the wrong place; then nothing results. -/
def mergeBothEnds? {α : Type} (less : α → α → Bool) (left right : List α) : Option (List α) :=
  let half := left.length
  let front := draw (fun first second => less second first) half left right
  let back := draw (fun second first => less second first) half right.reverse left.reverse
  let unused := front.first.length + back.second.length
  let middleIsLeft := half < unused
  let middle :=
    if right.length = half then []
    else if middleIsLeft then front.first.take 1
    else front.second.take 1
  let expected := if right.length != half && middleIsLeft then half + 1 else half
  if unused = expected then some (front.taken ++ middle ++ back.taken.reverse) else none

/-- Four items in order by five comparisons: two pairs, their extremes, and the two that remain. -/
def sortFour {α : Type} (less : α → α → Bool) (first second third fourth : α) : List α :=
  let (low, high) := if less second first then (second, first) else (first, second)
  let (lowNext, highNext) := if less fourth third then (fourth, third) else (third, fourth)
  let lowestIsNext := less lowNext low
  let highestIsHigh := less highNext high
  let least := if lowestIsNext then lowNext else low
  let greatest := if highestIsHigh then high else highNext
  let left := if lowestIsNext then low else if highestIsHigh then lowNext else high
  let right := if highestIsHigh then highNext else if lowestIsNext then high else lowNext
  if less right left then [least, right, left, greatest] else [least, left, right, greatest]

/-- A half of a block in order: its first four items by `sortFour` when the block has eight or
more, the others by insertion. -/
def sortHalf {α : Type} (less : α → α → Bool) (byFours : Bool) : List α → List α
  | first :: second :: third :: fourth :: rest =>
    if byFours then insertAll less (sortFour less first second third fourth) rest
    else insertionSort less (first :: second :: third :: fourth :: rest)
  | items => insertionSort less items

def blockSort? {α : Type} (less : α → α → Bool) (items : List α) : Option (List α) :=
  let half := items.length / 2
  let byFours := 8 ≤ items.length
  mergeBothEnds? less (sortHalf less byFours (items.take half))
    (sortHalf less byFours (items.drop half))

end Sorting
end RequestDispatch
