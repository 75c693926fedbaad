import RequestDispatch.FileTree

/-!
Patterns of file paths. In a name a star stands for any characters and a question mark for one; a
name of two stars stands for any number of directories. Braces, which elsewhere hold alternatives,
are not part of these patterns: a name with a brace in it fits nothing.
-/

namespace RequestDispatch

inductive PatternStep where
  | name (pattern : List Char)
  | anywhere
  deriving DecidableEq, Repr

structure FilePattern where
  steps : List PatternStep

namespace FilePattern

def isBrace (character : Char) : Bool := character = '\x7b' || character = '\x7d'

def fitsName : List Char → List Char → Bool
  | [], name => name.isEmpty
  | '*' :: pattern, [] => fitsName pattern []
  | '*' :: pattern, character :: name =>
    fitsName pattern (character :: name) || fitsName ('*' :: pattern) name
  | _ :: _, [] => false
  | expected :: pattern, character :: name =>
    (expected = '?' || expected = character) && !isBrace expected && fitsName pattern name
termination_by pattern name => pattern.length + name.length

def fitsSteps : List PatternStep → List String → Bool
  | [], names => names.isEmpty
  | .anywhere :: steps, [] => fitsSteps steps []
  | .anywhere :: steps, name :: names =>
    fitsSteps steps (name :: names) || fitsSteps (.anywhere :: steps) names
  | .name _ :: _, [] => false
  | .name pattern :: steps, name :: names =>
    fitsName pattern name.toList && fitsSteps steps names
termination_by steps names => steps.length + names.length

def fits (pattern : FilePattern) (names : List String) : Bool := fitsSteps pattern.steps names

def readStep (written : String) : PatternStep :=
  if written == "**" then .anywhere else .name written.toList

def ofNames (written : List String) : FilePattern := ⟨written.map readStep⟩

end FilePattern

namespace FileTree

/-- The files that fit a pattern, named by their paths. The part of the pattern before its first
star is the path of a directory from which the rest counts and the files are named; if that
directory is at the start of the tree because no part is left, the rest counts as it is written.
Nothing fits below a directory with a brace in its name. -/
def select (tree : FileTree) (pattern : String) : List (String × String) :=
  let directory := pattern.toList.takeWhile (· ≠ '*')
  let rest := String.ofList (pattern.toList.dropWhile (· ≠ '*'))
  let found (place : List String) (steps : List String) : List (String × String) :=
    if place.any fun name => name.toList.any FilePattern.isBrace then []
    else
      (tree.below place).filterMap fun (path, content) =>
        if (FilePattern.ofNames steps).fits path then some ("/".intercalate path, content)
        else none
  if directory.isEmpty then found [] (steps rest)
  else
    match tree.locate (String.ofList directory) with
    | some (.within place, .directory) => found place (names rest)
    | _ => []

end FileTree
end RequestDispatch
