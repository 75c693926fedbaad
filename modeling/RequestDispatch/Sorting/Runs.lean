import RequestDispatch.Sorting.Block

/-!
Sorting by runs. The items are cut into runs: stretches that already rise or fall, and where there
is no long one, pieces of a fixed length. Neighbouring runs are merged along a nearly balanced tree
whose shape follows from the positions of the runs alone. When the test of two items is found to
contradict itself, there is no result.
-/

namespace RequestDispatch
namespace Sorting

def blockLimit : Nat := 32

/-- A stretch of neighbouring items. One that is not sorted yet stands in its first order. -/
structure Run (α : Type) where
  items : List α
  sorted : Bool

/-- The longest beginning in which each item stands to the one before it as `falling` says, and
the rest. -/
def stretch {α : Type} (less : α → α → Bool) (falling : Bool) : α → List α → List α × List α
  | _, [] => ([], [])
  | previous, item :: rest =>
    if less item previous == falling then
      let (taken, left) := stretch less falling item rest
      (item :: taken, left)
    else ([], item :: rest)

def naturalRun {α : Type} (less : α → α → Bool) : List α → List α × List α
  | first :: second :: rest =>
    let falling := less second first
    let (more, left) := stretch less falling second rest
    let run := first :: second :: more
    (if falling then run.reverse else run, left)
  | items => (items, [])

/-- The run at the beginning, and the rest. A stretch shorter than `shortest` does not count; then
the run is a block, sorted at once when `eager`, otherwise a piece that is left unsorted. -/
def firstRun? {α : Type} (less : α → α → Bool) (shortest : Nat) (eager : Bool) (items : List α) :
    Option (Run α × List α) :=
  let (stretched, left) := naturalRun less items
  if shortest ≤ stretched.length then some (⟨stretched, true⟩, left)
  else if eager then
    (blockSort? less (items.take blockLimit)).map fun block =>
      (⟨block, true⟩, items.drop blockLimit)
  else some (⟨items.take shortest, false⟩, items.drop shortest)

def runs? {α : Type} (less : α → α → Bool) (shortest : Nat) (eager : Bool) :
    Nat → List α → Option (List (Run α))
  | 0, _ => some []
  | _ + 1, [] => some []
  | count + 1, item :: items =>
    (firstRun? less shortest eager (item :: items)).bind fun (run, left) =>
      (runs? less shortest eager count left).map fun others => run :: others

/-- Shortest stretch that counts as a run among so many items: at most 64 for a few thousand, about
their square root for more. -/
def shortestRun (count : Nat) : Nat :=
  if count ≤ 4096 then min (count - count / 2) 64
  else
    let shift := (1 + Nat.log2 count) / 2
    (Nat.pow 2 shift + count / Nat.pow 2 shift) / 2

def Run.finish? {α : Type} (sort : List α → Option (List α)) (run : Run α) : Option (List α) :=
  if run.sorted then some run.items else sort run.items

/-- Two neighbouring runs as one. They stay unsorted when neither is sorted. -/
def Run.join? {α : Type} (less : α → α → Bool) (sort : List α → Option (List α))
    (left right : Run α) : Option (Run α) :=
  if left.sorted || right.sorted then
    (left.finish? sort).bind fun first =>
      (right.finish? sort).map fun second => ⟨merge less first second, true⟩
  else some ⟨left.items ++ right.items, false⟩

/-- Depth in the merge tree of the border between two runs: how many leading binary digits the
midpoints of the two runs have in common, measured against all `count` items. -/
def borderDepth (count start middle stop : Nat) : Nat :=
  let scale := (Nat.pow 2 62 + count - 1) / count
  let difference := Nat.xor (scale * (start + middle)) (scale * (middle + stop))
  if difference = 0 then 64 else 63 - Nat.log2 difference

/-- Joins a run with the pending runs before it whose border is at least so deep. -/
def joinPending? {α : Type} (less : α → α → Bool) (sort : List α → Option (List α)) (depth : Nat) :
    List (Run α × Nat) → Run α → Option (List (Run α × Nat) × Run α)
  | [], run => some ([], run)
  | (pending, border) :: others, run =>
    if depth ≤ border then (pending.join? less sort run).bind (joinPending? less sort depth others)
    else some ((pending, border) :: others, run)

/-- Joins all runs: those pending with the depth of the border behind each, the latest one, which
begins at `start`, and those still to come. -/
def joinRuns? {α : Type} (less : α → α → Bool) (sort : List α → Option (List α)) (count : Nat)
    (pending : List (Run α × Nat)) (start : Nat) (latest : Run α) :
    List (Run α) → Option (Run α)
  | [] => (joinPending? less sort 0 pending latest).map Prod.snd
  | next :: others =>
    let middle := start + latest.items.length
    let depth := borderDepth count start middle (middle + next.items.length)
    (joinPending? less sort depth pending latest).bind fun (remaining, joined) =>
      joinRuns? less sort count ((joined, depth) :: remaining) middle next others

def runSort? {α : Type} (less : α → α → Bool) (sort : List α → Option (List α)) (eager : Bool)
    (items : List α) : Option (List α) :=
  (runs? less (shortestRun items.length) eager items.length items).bind fun
    | [] => some []
    | first :: others =>
      (joinRuns? less sort items.length [] 0 first others).bind (Run.finish? sort)

end Sorting
end RequestDispatch
