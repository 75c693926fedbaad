import Mathlib.Data.List.Nodup
import Mathlib.Data.List.Perm.Subperm
import Mathlib.Logic.Relation
import RequestDispatch.Type.Hierarchy

/-!
Walks up the type hierarchy. A walk lists the types level by level; the bound on the number of
levels is never what ends it (`levels_from`). Taking one type after the other from a queue, and
marking a type when it is taken, visits the same types in the same order with the same number of
steps, and comes to an end however the types are declared (`steps_to_walk`).
-/

namespace RequestDispatch
namespace TypeHierarchy

/-- All levels above the visited types, nearest first, up to where there are no more. -/
inductive Levels (hierarchy : TypeHierarchy) :
    List TypeKey → List TypeKey → List (List TypeKey) → Prop
  | top (visited : List TypeKey) : Levels hierarchy visited [] []
  | level {visited level : List TypeKey} {above : List (List TypeKey)} : level ≠ [] →
      Levels hierarchy (visited ++ level) (hierarchy.nextLevel (visited ++ level) level) above →
      Levels hierarchy visited level (level :: above)

variable {hierarchy : TypeHierarchy} {start visited level : List TypeKey}

theorem mem_nextLevel {key : TypeKey} :
    key ∈ hierarchy.nextLevel visited level ↔
      (∃ lower ∈ level, key ∈ hierarchy.parentsOfKey lower) ∧ key ∉ visited := by
  simp [nextLevel, mem_addMissing]

theorem nodup_nextLevel (distinct : visited.Nodup) :
    (visited ++ hierarchy.nextLevel visited level).Nodup := by
  rw [List.nodup_append']
  refine ⟨distinct, nodup_addMissing List.nodup_nil _, ?_⟩
  intro key old new
  exact (mem_nextLevel.1 new).2 old

/-- The types that a walk can meet: those it starts from, those declared above others, the root. -/
def territory (hierarchy : TypeHierarchy) (start : List TypeKey) : List TypeKey :=
  start ++ hierarchy.declared.flatMap Prod.snd ++ [.object]

theorem mem_declaredParents {key upper : TypeKey} (above : upper ∈ hierarchy.declaredParents key) :
    ∃ entry ∈ hierarchy.declared, entry.1 = key ∧ upper ∈ entry.2 := by
  rw [declaredParents] at above
  cases found : hierarchy.declared.lookup key with
  | none => simp [found] at above
  | some parents =>
      rw [found, Option.getD_some] at above
      obtain ⟨before, after, split, -⟩ := List.lookup_eq_some_iff.1 found
      exact ⟨(key, parents), by simp [split], rfl, above⟩

theorem parents_in_territory {key upper : TypeKey} (edge : upper ∈ hierarchy.parentsOfKey key) :
    upper ∈ hierarchy.territory start := by
  rw [territory, List.mem_append, List.mem_append]
  unfold parentsOfKey at edge
  split at edge
  · split at edge
    · cases edge
    · exact .inr edge
  · obtain ⟨entry, member, -, above⟩ := mem_declaredParents edge
    exact .inl (.inr (List.mem_flatMap.2 ⟨entry, member, above⟩))

/-- A walk has fuel for as many levels as there are types that have not been visited. -/
theorem levels_from (start : List TypeKey) (fuel : Nat) (distinct : (visited ++ level).Nodup)
    (within : visited ++ level ⊆ hierarchy.territory start)
    (enough : (hierarchy.territory start).length < visited.length + fuel) :
    hierarchy.Levels visited level (hierarchy.levelsFrom fuel visited level) := by
  induction fuel generalizing visited level with
  | zero =>
      have bound := (distinct.subperm within).length_le
      rw [List.length_append] at bound
      omega
  | succ fuel ih =>
      rw [levelsFrom]
      cases level with
      | nil => exact .top visited
      | cons key rest =>
          refine .level (List.cons_ne_nil key rest) (ih (nodup_nextLevel distinct) ?_ ?_)
          · intro other member
            rcases List.mem_append.1 member with old | new
            · exact within old
            · obtain ⟨⟨_, -, edge⟩, -⟩ := mem_nextLevel.1 new
              exact parents_in_territory edge
          · rw [List.length_append, List.length_cons]
            omega

/-- The types of levels with the number of steps to each; there are this many below the first. -/
def entries (below : Nat) (levels : List (List TypeKey)) : List (TypeKey × Nat) :=
  (levels.zipIdx below).flatMap fun (level, steps) => level.map fun key => (key, steps + 1)

theorem entries_cons (below : Nat) (level : List TypeKey) (above : List (List TypeKey)) :
    entries below (level :: above) =
      (level.map fun key => (key, below + 1)) ++ entries (below + 1) above := by
  simp [entries]

theorem walk_levels (hierarchy : TypeHierarchy) (start : List TypeKey) :
    ∃ levels, hierarchy.Levels [] (addMissing [] start) levels ∧
      hierarchy.walk start = entries 0 levels := by
  refine ⟨_, levels_from start (hierarchy.reachBound start) ?_ ?_ ?_, rfl⟩
  · exact nodup_addMissing List.nodup_nil start
  · intro key member
    have started : key ∈ start := by simpa [mem_addMissing] using member
    simp [territory, started]
  · simp [territory, reachBound]
    omega

def unvisited (visited : List (TypeKey × Nat)) (keys : List TypeKey) : List TypeKey :=
  keys.filter (· ∉ visited.map Prod.fst)

/-- A walk at work: the types that wait, each with the steps to it, and the visited ones. -/
structure WalkState where
  waiting : List (TypeKey × Nat)
  visited : List (TypeKey × Nat)

/-- The type that has waited longest is taken. It is dropped if it was visited; if not, it is
visited, and its supertypes wait behind the others, but for those visited. -/
def WalkState.next? (hierarchy : TypeHierarchy) (state : WalkState) : Option WalkState :=
  match state.waiting with
  | [] => none
  | (key, steps) :: waiting =>
    if key ∈ state.visited.map Prod.fst then some ⟨waiting, state.visited⟩
    else
      let visited := state.visited ++ [(key, steps)]
      let parents := unvisited visited (hierarchy.parentsOfKey key)
      some ⟨waiting ++ parents.map (·, steps + 1), visited⟩

def WalkState.Steps (hierarchy : TypeHierarchy) : WalkState → WalkState → Prop :=
  Relation.ReflTransGen fun state after => state.next? hierarchy = some after

section

variable {visited : List (TypeKey × Nat)} {key : TypeKey}

theorem mem_unvisited {keys : List TypeKey} :
    key ∈ unvisited visited keys ↔ key ∈ keys ∧ key ∉ visited.map Prod.fst := by
  rw [unvisited, List.mem_filter, decide_eq_true_eq]

theorem unvisited_cons_visited (known : key ∈ visited.map Prod.fst) (keys : List TypeKey) :
    unvisited visited (key :: keys) = unvisited visited keys := by
  rw [unvisited, List.filter_cons_of_neg (by simpa using known)]
  rfl

/-- A type met for the first time is visited, so it is not met for the first time again. -/
theorem fresh_cons (unknown : key ∉ visited.map Prod.fst) (steps : Nat) (keys : List TypeKey) :
    (unvisited visited (key :: keys)).eraseDups =
      key :: (unvisited (visited ++ [(key, steps)]) keys).eraseDups := by
  rw [unvisited, List.filter_cons_of_pos (by simpa using unknown), List.eraseDups_cons,
    List.filter_filter, unvisited]
  refine congrArg (fun keys => key :: List.eraseDups keys) (List.filter_congr ?_)
  intro other _
  by_cases same : other = key <;> simp [same, Bool.beq_eq_decide_eq]

theorem unvisited_append (first more : List TypeKey) :
    unvisited visited (first ++ more) = unvisited visited first ++ unvisited visited more :=
  List.filter_append first more

theorem unvisited_unvisited (more : List (TypeKey × Nat)) (keys : List TypeKey) :
    unvisited (visited ++ more) (unvisited visited keys) = unvisited (visited ++ more) keys := by
  rw [unvisited, unvisited, unvisited, List.filter_filter]
  apply List.filter_congr
  intro other _
  by_cases member : other ∈ visited.map Prod.fst <;> simp [member]

theorem map_fst_on_level (keys : List TypeKey) (steps : Nat) :
    (keys.map (·, steps)).map Prod.fst = keys := by
  rw [List.map_map]
  exact List.map_id keys

theorem next_visited {steps : Nat} {waiting : List (TypeKey × Nat)}
    (known : key ∈ visited.map Prod.fst) :
    WalkState.next? hierarchy ⟨(key, steps) :: waiting, visited⟩ = some ⟨waiting, visited⟩ := by
  simp only [WalkState.next?, if_pos known]

theorem next_fresh {steps : Nat} {waiting : List (TypeKey × Nat)}
    (unknown : key ∉ visited.map Prod.fst) :
    WalkState.next? hierarchy ⟨(key, steps) :: waiting, visited⟩ =
      some ⟨waiting ++ (unvisited (visited ++ [(key, steps)])
        (hierarchy.parentsOfKey key)).map (·, steps + 1), visited ++ [(key, steps)]⟩ := by
  simp only [WalkState.next?, if_neg unknown]

end

/-- The types waiting on one level are taken in turn. Those met for the first time are visited, and
what then waits is, but for types visited, what stands above them. -/
theorem take_level (hierarchy : TypeHierarchy) (below : Nat) (raw later : List TypeKey)
    (visited : List (TypeKey × Nat)) :
    ∃ fresh after risen, fresh = (unvisited visited raw).eraseDups ∧
      after = visited ++ fresh.map (·, below + 1) ∧
      WalkState.Steps hierarchy
        ⟨raw.map (·, below + 1) ++ later.map (·, below + 2), visited⟩
        ⟨(later ++ risen).map (·, below + 2), after⟩ ∧
      unvisited after risen = unvisited after (fresh.flatMap hierarchy.parentsOfKey) := by
  induction raw generalizing later visited with
  | nil => exact ⟨[], _, [], rfl, rfl, by simpa using .refl, rfl⟩
  | cons key raw ih =>
      by_cases known : key ∈ visited.map Prod.fst
      · obtain ⟨fresh, after, risen, first, whole, steps, same⟩ := ih later visited
        rw [← unvisited_cons_visited known] at first
        exact ⟨fresh, after, risen, first, whole, .head (next_visited known) steps, same⟩
      · let first := visited ++ [(key, below + 1)]
        let parents := unvisited first (hierarchy.parentsOfKey key)
        obtain ⟨fresh, after, risen, rfl, whole, steps, same⟩ := ih (later ++ parents) first
        refine ⟨_, after, parents ++ risen, (fresh_cons known (below + 1) raw).symm, ?_,
          .head (next_fresh known) ?_, ?_⟩
        · rw [whole, List.map_cons, List.append_assoc]
          rfl
        · rw [List.map_append, ← List.append_assoc, List.append_assoc later] at steps
          exact steps
        · rw [unvisited_append, same, List.flatMap_cons, unvisited_append, whole,
            unvisited_unvisited]

theorem drop_visited (steps : Nat) {raw : List TypeKey} {visited : List (TypeKey × Nat)}
    (known : unvisited visited raw = []) :
    WalkState.Steps hierarchy ⟨raw.map (·, steps), visited⟩ ⟨[], visited⟩ := by
  induction raw with
  | nil => exact .refl
  | cons key raw ih =>
      by_cases member : key ∈ visited.map Prod.fst
      · rw [unvisited_cons_visited member] at known
        exact .head (next_visited member) (ih known)
      · have listed : key ∈ unvisited visited (key :: raw) :=
          mem_unvisited.2 ⟨List.mem_cons_self, member⟩
        rw [known] at listed
        cases listed

theorem steps_of_levels {levels : List (List TypeKey)} {seen level : List TypeKey}
    (complete : hierarchy.Levels seen level levels) (below : Nat) (raw : List TypeKey)
    (visited : List (TypeKey × Nat)) (known : visited.map Prod.fst = seen)
    (fresh : (unvisited visited raw).eraseDups = level) :
    WalkState.Steps hierarchy ⟨raw.map (·, below + 1), visited⟩
      ⟨[], visited ++ entries below levels⟩ := by
  induction complete generalizing below raw visited with
  | top seen =>
      have none : unvisited visited raw = [] := by
        apply List.eq_nil_iff_forall_not_mem.2
        intro key member
        rw [← List.mem_eraseDups, fresh] at member
        cases member
      rw [entries, List.zipIdx_nil, List.flatMap_nil, List.append_nil]
      exact drop_visited (below + 1) none
  | @level seen level above filled _ ih =>
      obtain ⟨_, after, risen, rfl, whole, steps, same⟩ :=
        take_level hierarchy below raw [] visited
      rw [fresh] at whole same
      have seenAfter : after.map Prod.fst = seen ++ level := by
        rw [whole, List.map_append, known, map_fst_on_level]
      have next : (unvisited after risen).eraseDups =
          hierarchy.nextLevel (seen ++ level) level := by
        rw [same, nextLevel, addMissing_eq]
        simp [unvisited, seenAfter]
      have rest := ih (below + 1) risen after seenAfter next
      rw [List.map_nil, List.append_nil, List.nil_append] at steps
      rw [entries_cons, ← List.append_assoc, ← whole]
      exact steps.trans rest

/-- A walk from any starting points ends, and it has then visited what `walk` lists. -/
theorem steps_to_walk (hierarchy : TypeHierarchy) (start : List TypeKey) :
    WalkState.Steps hierarchy ⟨start.map (·, 1), []⟩ ⟨[], hierarchy.walk start⟩ := by
  obtain ⟨levels, complete, listed⟩ := hierarchy.walk_levels start
  rw [listed]
  refine steps_of_levels complete 0 start [] rfl ?_
  rw [addMissing_eq]
  simp [unvisited]

end TypeHierarchy
end RequestDispatch
