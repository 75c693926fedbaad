import RequestDispatch.Type.Descriptor

/-!
The hierarchy of types: declared edges from a type to its direct supertypes, and the edges that
every type has without a declaration. A walk visits the supertypes level by level, so the first
time a type is met is also the shortest way to it.
-/

namespace RequestDispatch

/-- Declared direct supertypes, in the order of their first declaration. -/
structure TypeHierarchy where
  declared : List (TypeKey × List TypeKey)

def addMissing (present : List TypeKey) : List TypeKey → List TypeKey
  | [] => present
  | key :: rest => addMissing (if present.contains key then present else present ++ [key]) rest

theorem addMissing_eq (present keys : List TypeKey) :
    addMissing present keys =
      present ++ (keys.filter fun key => !present.contains key).eraseDups := by
  induction keys generalizing present with
  | nil => simp [addMissing]
  | cons key rest ih =>
      rw [addMissing, ih, List.filter_cons]
      cases known : present.contains key with
      | true => rfl
      | false =>
          have others : (rest.filter fun other => !(present ++ [key]).contains other) =
              (rest.filter fun other => !present.contains other).filter fun other =>
                !other == key := by
            rw [List.filter_filter]
            apply List.filter_congr
            intro other _
            simp [Bool.beq_eq_decide_eq, Bool.and_comm]
          rw [if_neg Bool.false_ne_true, others, if_pos Bool.not_false, List.eraseDups_cons,
            List.append_assoc]
          rfl

theorem mem_addMissing {present keys : List TypeKey} {key : TypeKey} :
    key ∈ addMissing present keys ↔ key ∈ present ∨ key ∈ keys := by
  rw [addMissing_eq, List.mem_append, List.mem_eraseDups, List.mem_filter]
  by_cases known : key ∈ present <;> simp [known]

theorem nodup_addMissing {present : List TypeKey} (distinct : present.Nodup)
    (keys : List TypeKey) : (addMissing present keys).Nodup := by
  induction keys generalizing present with
  | nil => exact distinct
  | cons key rest ih =>
      rw [addMissing]
      apply ih
      split
      · exact distinct
      · next unknown =>
        have fresh : key ∉ present := by simpa using unknown
        refine List.nodup_append.2 ⟨distinct, by simp, ?_⟩
        rintro other member _ last rfl
        rw [List.mem_singleton.1 last] at member
        exact fresh member

namespace TypeHierarchy

def standard : TypeHierarchy :=
  ⟨[(.number, [.object]), (.enumeration, [.object]), (.characters, [.object])]⟩

def declaredParents (hierarchy : TypeHierarchy) (key : TypeKey) : List TypeKey :=
  (hierarchy.declared.lookup key).getD []

def setParents (key : TypeKey) (parents : List TypeKey) :
    List (TypeKey × List TypeKey) → List (TypeKey × List TypeKey)
  | [] => [(key, parents)]
  | entry :: rest =>
    if entry.1 = key then (key, parents) :: rest else entry :: setParents key parents rest

def declare (hierarchy : TypeHierarchy) (key : TypeKey) (supertypes : List TypeKey) :
    TypeHierarchy :=
  ⟨setParents key (addMissing (hierarchy.declaredParents key) supertypes) hierarchy.declared⟩

/-- The direct supertypes of a described type: the declared ones, then those its shape implies, or
the root if there are none and the type is neither primitive nor the root. -/
def parentsOf (hierarchy : TypeHierarchy) (descriptor : TypeDescriptor) : List TypeKey :=
  let known := addMissing (hierarchy.declaredParents descriptor.key) descriptor.impliedParents
  if known.isEmpty && !descriptor.isPrimitive && descriptor.key ≠ .object then [.object]
  else known

def parentsOfKey (hierarchy : TypeHierarchy) (key : TypeKey) : List TypeKey :=
  match hierarchy.declaredParents key with
  | [] => if key = .object then [] else [.object]
  | parents => parents

def nextLevel (hierarchy : TypeHierarchy) (visited level : List TypeKey) : List TypeKey :=
  addMissing [] ((level.flatMap hierarchy.parentsOfKey).filter fun key => !visited.contains key)

def levelsFrom (hierarchy : TypeHierarchy) : Nat → List TypeKey → List TypeKey → List (List TypeKey)
  | 0, _, _ => []
  | fuel + 1, visited, level =>
    if level.isEmpty then []
    else
      let seen := visited ++ level
      level :: hierarchy.levelsFrom fuel seen (hierarchy.nextLevel seen level)

def reachBound (hierarchy : TypeHierarchy) (start : List TypeKey) : Nat :=
  start.length + (hierarchy.declared.flatMap Prod.snd).length + 2

def walk (hierarchy : TypeHierarchy) (start : List TypeKey) : List (TypeKey × Nat) :=
  let levels := hierarchy.levelsFrom (hierarchy.reachBound start) [] (addMissing [] start)
  levels.zipIdx.flatMap fun (level, steps) => level.map fun key => (key, steps + 1)

def distance (hierarchy : TypeHierarchy) (source : TypeDescriptor) (target : TypeKey) :
    Option Nat :=
  if source.key = target then some 0
  else (hierarchy.walk (hierarchy.parentsOf source)).lookup target

def keyDistance (hierarchy : TypeHierarchy) (source target : TypeKey) : Option Nat :=
  if source = target then some 0
  else (hierarchy.walk (hierarchy.parentsOfKey source)).lookup target

/-- Values of the described type may stand where the key is asked for. -/
def isAssignable (hierarchy : TypeHierarchy) (source : TypeDescriptor) (target : TypeKey) : Bool :=
  (hierarchy.distance source target).isSome

def ancestors (hierarchy : TypeHierarchy) (descriptor : TypeDescriptor) : List TypeKey :=
  (hierarchy.walk (hierarchy.parentsOf descriptor)).map Prod.fst

def ancestorsOfKey (hierarchy : TypeHierarchy) (key : TypeKey) : List TypeKey :=
  (hierarchy.walk (hierarchy.parentsOfKey key)).map Prod.fst

end TypeHierarchy
end RequestDispatch
