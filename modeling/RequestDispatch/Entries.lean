/-!
Finite maps with text keys, as lists of entries in ascending order of their keys. Putting a value
under a key that is there replaces the value.
-/

namespace RequestDispatch

/-- Entries in ascending order of their keys, no two with the same key. -/
abbrev Entries (α : Type) := List (String × α)

namespace Entries

variable {α : Type}

def insert (key : String) (value : α) : Entries α → Entries α
  | [] => [(key, value)]
  | entry :: rest =>
    match compare key entry.1 with
    | .lt => (key, value) :: entry :: rest
    | .eq => (key, value) :: rest
    | .gt => entry :: insert key value rest

def ofList (pairs : List (String × α)) : Entries α :=
  pairs.foldl (fun entries pair => insert pair.1 pair.2 entries) []

def get? (entries : Entries α) (key : String) : Option α := List.lookup key entries

def erase (entries : Entries α) (key : String) : Entries α :=
  List.filter (fun entry => entry.1 != key) entries

def keys (entries : Entries α) : List String := List.map Prod.fst entries

end Entries
end RequestDispatch
