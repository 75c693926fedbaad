import RequestDispatch.Entries
import RequestDispatch.Text.Split

/-!
A tree of text files, seen from the directory that paths start from. Of what lies outside of the
tree only this is known: going up leads to directories, and so does a slash at the beginning of a
path, which leads to the top of the host.
-/

namespace RequestDispatch

structure FileTree where
  files : List (String × String)

inductive FileEntry where
  | file (content : String)
  | directory
  deriving DecidableEq, Repr

/-- Where a path leads: into the tree by the names from its start, to a directory further up, or
into the host by the names from its top. -/
inductive Place where
  | within (names : List String)
  | above
  | host (names : List String)
  deriving DecidableEq, Repr

namespace Place

def enter (name : String) : Place → Option Place
  | .within names => some (.within (names ++ [name]))
  | .above => none
  | .host names => some (.host (names ++ [name]))

def leave : Place → Place
  | .within [] => .above
  | .within (name :: names) => .within (name :: names).dropLast
  | .above => .above
  | .host names => .host names.dropLast

end Place

namespace FileTree

def steps (path : String) : List String := (Text.splitOn '/' path.toList).map String.ofList

def isIdle (step : String) : Bool := step.isEmpty || step == "."

def names (path : String) : List String := (steps path).filter fun step => !isIdle step

def hostDirectories : List String :=
  ["bin", "dev", "etc", "home", "lib", "mnt", "opt", "proc", "root", "run", "sbin", "sys", "tmp",
    "usr", "var"]

def hostEntry? : List String → Option FileEntry
  | [] => some .directory
  | [name] => if hostDirectories.contains name then some .directory else none
  | ["dev", "null"] => some (.file "")
  | _ => none

def entryAt? (tree : FileTree) : Place → Option FileEntry
  | .above => some .directory
  | .host names => hostEntry? names
  | .within place =>
    match tree.files.find? fun file => names file.1 == place with
    | some file => some (.file file.2)
    | none =>
      if place.isEmpty || tree.files.any fun file => place.isPrefixOf (names file.1) then
        some .directory
      else none

/-- Walks on from a place, which has to be a directory as long as there are steps left. -/
def walk (tree : FileTree) (place : Place) : List String → Option (Place × FileEntry)
  | [] => (tree.entryAt? place).map fun entry => (place, entry)
  | step :: rest =>
    if tree.entryAt? place ≠ some .directory then none
    else if isIdle step then tree.walk place rest
    else if step = ".." then tree.walk place.leave rest
    else (place.enter step).bind fun entered => tree.walk entered rest

def locate (tree : FileTree) (path : String) : Option (Place × FileEntry) :=
  if path.isEmpty then none
  else tree.walk (if path.startsWith "/" then .host [] else .within []) (steps path)

def find? (tree : FileTree) (path : String) : Option FileEntry :=
  (tree.locate path).map Prod.snd

/-- The files below a directory of the tree, with the names that lead to them from there. -/
def below (tree : FileTree) (place : List String) : List (List String × String) :=
  tree.files.filterMap fun (path, content) =>
    if place.isPrefixOf (names path) then some ((names path).drop place.length, content) else none

end FileTree
end RequestDispatch
