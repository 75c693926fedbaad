import RequestDispatch.Route.Mapping

/-!
The choice between routes that match. More captured variables win, then the higher confidence; of
equals the first wins.
-/

namespace RequestDispatch

structure MatchResult where
  path : PathMatch
  confidence : Nat
  defaultView : Option String

namespace MatchResult

def groupCount (result : MatchResult) : Nat := result.path.groupCount

def bindings (result : MatchResult) : List (String × String) := result.path.bindings

def beats (result other : MatchResult) : Bool :=
  match compare result.groupCount other.groupCount with
  | .gt => true
  | .lt => false
  | .eq => other.confidence < result.confidence

end MatchResult

/-- The better of two candidates, the earlier one if neither is better. -/
def best {α : Type} (current candidate : Option (α × MatchResult)) : Option (α × MatchResult) :=
  match current, candidate with
  | some first, some second => if second.2.beats first.2 then some second else some first
  | some first, none => some first
  | none, second => second

def bestOf {α : Type} (test : α → Option MatchResult) (choices : List α) :
    Option (α × MatchResult) :=
  choices.foldl
    (fun current choice => best current ((test choice).map fun found => (choice, found))) none

end RequestDispatch
