import Mathlib.Order.WellFoundedSet
import RequestDispatch.Proofs.Type.Walk

/-!
Distances in the type hierarchy. What a walk has visited and what it comes to next are told by
shortest ways (`Front`, kept from level to level by `Front.next`), so a walk lists each type that
stands above its starting points once, with the length of a shortest way to it (`mem_walk`).
-/

namespace RequestDispatch

theorem lookup_of_distinct {Key α : Type} [BEq Key] [LawfulBEq Key] {entries : List (Key × α)}
    {key : Key} {value : α} (distinct : (entries.map Prod.fst).Nodup)
    (member : (key, value) ∈ entries) : entries.lookup key = some value := by
  obtain ⟨before, after, rfl⟩ := List.append_of_mem member
  refine List.lookup_eq_some_iff.2 ⟨before, after, rfl, ?_⟩
  intro entry earlier
  rw [List.map_append, List.map_cons, List.nodup_append] at distinct
  have apart := distinct.2.2 entry.1 (List.mem_map_of_mem earlier) key List.mem_cons_self
  exact bne_iff_ne.2 (Ne.symm apart)

theorem lookup_cons_eq {α : Type} (key other : TypeKey) (value : α)
    (entries : List (TypeKey × α)) :
    ((key, value) :: entries).lookup other =
      if other = key then some value else entries.lookup other := by
  rw [List.lookup_cons]
  by_cases same : other = key
  · rw [beq_iff_eq.2 same, if_pos same]
  · rw [beq_eq_false_iff_ne.2 same, if_neg same]

namespace TypeHierarchy

/-- So many steps lead from a starting point up to the key; to stand at a starting point is the
first step. -/
inductive Climbs (hierarchy : TypeHierarchy) (start : List TypeKey) : Nat → TypeKey → Prop
  | first {key : TypeKey} : key ∈ start → Climbs hierarchy start 1 key
  | further {steps : Nat} {key upper : TypeKey} : Climbs hierarchy start steps key →
      upper ∈ hierarchy.parentsOfKey key → Climbs hierarchy start (steps + 1) upper

/-- The least number of steps up to the key. -/
def Nearest (hierarchy : TypeHierarchy) (start : List TypeKey) (key : TypeKey) (steps : Nat) :
    Prop :=
  IsLeast {count | hierarchy.Climbs start count key} steps

variable {hierarchy : TypeHierarchy} {start : List TypeKey}

theorem Climbs.pos {steps : Nat} {key : TypeKey} (climbs : hierarchy.Climbs start steps key) :
    0 < steps := by
  cases climbs <;> omega

theorem Climbs.nearest {steps : Nat} {key : TypeKey} (climbs : hierarchy.Climbs start steps key) :
    ∃ least, hierarchy.Nearest start key least := by
  classical
  have some : ∃ count, hierarchy.Climbs start count key := ⟨steps, climbs⟩
  exact ⟨Nat.find some, Nat.find_spec some, fun _ other => Nat.find_min' some other⟩

/-- On a shortest way the type before the last is reached on a shortest way, too. -/
theorem Nearest.lower {steps : Nat} {upper : TypeKey} (positive : 0 < steps)
    (nearest : hierarchy.Nearest start upper (steps + 1)) :
    ∃ key, hierarchy.Nearest start key steps ∧ upper ∈ hierarchy.parentsOfKey key := by
  obtain ⟨climbs, least⟩ := nearest
  cases climbs with
  | first => omega
  | @further _ key _ climbs edge =>
      refine ⟨key, ⟨climbs, ?_⟩, edge⟩
      intro count other
      have longer := least (.further other edge)
      omega

theorem Nearest.onLevel {steps below : Nat} {key : TypeKey}
    (nearest : hierarchy.Nearest start key steps) (beyond : below < steps) :
    ∃ other, hierarchy.Nearest start other (below + 1) := by
  induction steps, beyond using Nat.le_induction generalizing key with
  | base => exact ⟨key, nearest⟩
  | succ steps beyond ih =>
      obtain ⟨lower, nearer, -⟩ := nearest.lower (by omega)
      exact ih nearer

/-- A walk has visited what is at most so many steps away, and the level it comes to next is what
is one step further. -/
structure Front (hierarchy : TypeHierarchy) (start : List TypeKey) (below : Nat)
    (visited level : List TypeKey) : Prop where
  behind : ∀ key, key ∈ visited ↔ ∃ steps ≤ below, hierarchy.Climbs start steps key
  ahead : ∀ key, key ∈ level ↔ hierarchy.Nearest start key (below + 1)

theorem front_start : hierarchy.Front start 0 [] (addMissing [] start) := by
  constructor
  · intro key
    refine ⟨(by intro member; cases member), ?_⟩
    rintro ⟨steps, none, climbs⟩
    exact absurd climbs.pos (by omega)
  · intro key
    have same : key ∈ addMissing [] start ↔ key ∈ start := by simp [mem_addMissing]
    rw [same]
    constructor
    · intro started
      exact ⟨.first started, fun _ climbs => climbs.pos⟩
    · rintro ⟨climbs, -⟩
      cases climbs with
      | first started => exact started
      | further climbs => exact absurd climbs.pos (by omega)

theorem Front.seen {below : Nat} {visited level : List TypeKey}
    (front : hierarchy.Front start below visited level) (key : TypeKey) :
    key ∈ visited ++ level ↔ ∃ steps ≤ below + 1, hierarchy.Climbs start steps key := by
  rw [List.mem_append, front.behind, front.ahead]
  constructor
  · rintro (⟨steps, bound, climbs⟩ | ⟨climbs, -⟩)
    · exact ⟨steps, by omega, climbs⟩
    · exact ⟨below + 1, Nat.le_refl _, climbs⟩
  · rintro ⟨steps, bound, climbs⟩
    obtain ⟨least, nearest⟩ := climbs.nearest
    have shorter := nearest.2 climbs
    by_cases last : least = below + 1
    · exact .inr (last ▸ nearest)
    · exact .inl ⟨least, by omega, nearest.1⟩

theorem Front.next {below : Nat} {visited level : List TypeKey}
    (front : hierarchy.Front start below visited level) :
    hierarchy.Front start (below + 1) (visited ++ level)
      (hierarchy.nextLevel (visited ++ level) level) := by
  refine ⟨front.seen, ?_⟩
  intro upper
  rw [mem_nextLevel, front.seen]
  constructor
  · rintro ⟨⟨key, member, edge⟩, unseen⟩
    have nearest := (front.ahead key).1 member
    refine ⟨.further nearest.1 edge, ?_⟩
    intro count climbs
    by_contra shorter
    exact unseen ⟨count, by omega, climbs⟩
  · intro nearest
    obtain ⟨key, nearer, edge⟩ := nearest.lower (by omega)
    refine ⟨⟨key, (front.ahead key).2 nearer, edge⟩, ?_⟩
    rintro ⟨steps, bound, climbs⟩
    have longer := nearest.2 climbs
    omega

/-- The levels of a walk hold every type at its least number of steps. -/
theorem mem_entries {below : Nat} {visited level : List TypeKey} {levels : List (List TypeKey)}
    (complete : hierarchy.Levels visited level levels)
    (front : hierarchy.Front start below visited level) (key : TypeKey) (steps : Nat) :
    (key, steps) ∈ entries below levels ↔ below < steps ∧ hierarchy.Nearest start key steps := by
  induction complete generalizing below with
  | top visited =>
      refine ⟨(by intro member; cases member), ?_⟩
      rintro ⟨beyond, nearest⟩
      obtain ⟨other, next⟩ := nearest.onLevel beyond
      cases (front.ahead other).2 next
  | @level visited level above filled _ ih =>
      rw [entries_cons, List.mem_append, ih front.next, List.mem_map]
      constructor
      · rintro (⟨other, member, same⟩ | ⟨beyond, nearest⟩)
        · obtain ⟨rfl, rfl⟩ := Prod.mk.inj same
          exact ⟨Nat.lt_succ_self below, (front.ahead other).1 member⟩
        · exact ⟨by omega, nearest⟩
      · rintro ⟨beyond, nearest⟩
        by_cases next : steps = below + 1
        · subst next
          exact .inl ⟨key, (front.ahead key).2 nearest, rfl⟩
        · exact .inr ⟨by omega, nearest⟩

theorem mem_walk {key : TypeKey} {steps : Nat} :
    (key, steps) ∈ hierarchy.walk start ↔ hierarchy.Nearest start key steps := by
  obtain ⟨levels, complete, listed⟩ := hierarchy.walk_levels start
  rw [listed, mem_entries complete front_start]
  exact ⟨And.right, fun nearest => ⟨nearest.1.pos, nearest⟩⟩

theorem entries_beyond {below : Nat} {levels : List (List TypeKey)} :
    ∀ entry ∈ entries below levels, below < entry.2 := by
  induction levels generalizing below with
  | nil => simp [entries]
  | cons level above ih =>
      intro entry member
      rw [entries_cons, List.mem_append, List.mem_map] at member
      rcases member with ⟨key, -, rfl⟩ | later
      · exact Nat.lt_succ_self below
      · exact Nat.lt_of_succ_lt (ih entry later)

theorem entries_sorted (below : Nat) (levels : List (List TypeKey)) :
    (entries below levels).Pairwise fun one other => one.2 ≤ other.2 := by
  induction levels generalizing below with
  | nil => exact .nil
  | cons level above ih =>
      rw [entries_cons, List.pairwise_append]
      refine ⟨?_, ih (below + 1), ?_⟩
      · rw [List.pairwise_map]
        exact List.pairwise_of_forall fun _ _ => Nat.le_refl _
      · intro one onLevel other beyond
        obtain ⟨key, -, rfl⟩ := List.mem_map.1 onLevel
        exact Nat.le_of_lt (entries_beyond other beyond)

theorem entries_distinct {visited level : List TypeKey} {levels : List (List TypeKey)}
    (complete : hierarchy.Levels visited level levels) (distinct : (visited ++ level).Nodup)
    (below : Nat) : (visited ++ (entries below levels).map Prod.fst).Nodup := by
  induction complete generalizing below with
  | top visited => exact distinct
  | @level visited level above filled _ ih =>
      rw [entries_cons, List.map_append, map_fst_on_level, ← List.append_assoc]
      exact ih (nodup_nextLevel distinct) (below + 1)

theorem walk_sorted (hierarchy : TypeHierarchy) (start : List TypeKey) :
    (hierarchy.walk start).Pairwise fun one other => one.2 ≤ other.2 := by
  obtain ⟨levels, -, listed⟩ := hierarchy.walk_levels start
  rw [listed]
  exact entries_sorted 0 levels

theorem walk_distinct (hierarchy : TypeHierarchy) (start : List TypeKey) :
    ((hierarchy.walk start).map Prod.fst).Nodup := by
  obtain ⟨levels, complete, listed⟩ := hierarchy.walk_levels start
  have distinct : ([] ++ addMissing [] start).Nodup := nodup_addMissing List.nodup_nil start
  rw [listed]
  simpa using entries_distinct complete distinct 0

theorem lookup_walk_eq_some {key : TypeKey} {steps : Nat} :
    (hierarchy.walk start).lookup key = some steps ↔ hierarchy.Nearest start key steps := by
  constructor
  · intro found
    obtain ⟨before, after, split, -⟩ := List.lookup_eq_some_iff.1 found
    exact mem_walk.1 (by simp [split])
  · intro nearest
    exact lookup_of_distinct (hierarchy.walk_distinct start) (mem_walk.2 nearest)

theorem lookup_walk_eq_none {key : TypeKey} :
    (hierarchy.walk start).lookup key = none ↔ ∀ steps, ¬ hierarchy.Climbs start steps key := by
  rw [Option.eq_none_iff_forall_ne_some]
  constructor
  · intro absent steps climbs
    obtain ⟨least, nearest⟩ := climbs.nearest
    exact absent least (lookup_walk_eq_some.2 nearest)
  · intro unreached steps found
    exact unreached steps (lookup_walk_eq_some.1 found).1

theorem mem_walk_fst {key : TypeKey} :
    key ∈ (hierarchy.walk start).map Prod.fst ↔ ∃ steps, hierarchy.Climbs start steps key := by
  constructor
  · intro member
    obtain ⟨⟨_, steps⟩, listed, rfl⟩ := List.mem_map.1 member
    exact ⟨steps, (mem_walk.1 listed).1⟩
  · rintro ⟨steps, climbs⟩
    obtain ⟨least, nearest⟩ := climbs.nearest
    exact List.mem_map.2 ⟨(key, least), mem_walk.2 nearest, rfl⟩

theorem Nearest.unique {key : TypeKey} {one other : Nat}
    (nearest : hierarchy.Nearest start key one) (also : hierarchy.Nearest start key other) :
    one = other :=
  IsLeast.unique nearest also

theorem walk_fst_sorted (hierarchy : TypeHierarchy) (start : List TypeKey) :
    ((hierarchy.walk start).map Prod.fst).Pairwise fun one other => ∀ near far,
      hierarchy.Nearest start one near → hierarchy.Nearest start other far → near ≤ far := by
  rw [List.pairwise_map]
  refine (hierarchy.walk_sorted start).imp_of_mem ?_
  intro one other listed alsoListed order near far nearest further
  rw [nearest.unique (mem_walk.1 listed), further.unique (mem_walk.1 alsoListed)]
  exact order

/-- The hierarchy after these declarations: each puts supertypes above a type. -/
def declaring (calls : List (TypeKey × List TypeKey)) : TypeHierarchy :=
  calls.foldl (fun hierarchy call => hierarchy.declare call.1 call.2) standard

def Declares (calls : List (TypeKey × List TypeKey)) (key upper : TypeKey) : Prop :=
  ∃ uppers, (key, uppers) ∈ calls ∧ upper ∈ uppers

/-- Declared, or in the hierarchy from the beginning. -/
def Known (calls : List (TypeKey × List TypeKey)) (key upper : TypeKey) : Prop :=
  upper ∈ standard.declaredParents key ∨ Declares calls key upper

theorem lookup_setParents (key other : TypeKey) (parents : List TypeKey)
    (entries : List (TypeKey × List TypeKey)) :
    (setParents key parents entries).lookup other =
      if other = key then some parents else entries.lookup other := by
  induction entries with
  | nil => exact lookup_cons_eq key other parents []
  | cons entry rest ih =>
      obtain ⟨first, held⟩ := entry
      rw [setParents]
      by_cases own : first = key
      · rw [if_pos own, lookup_cons_eq, lookup_cons_eq, own]
        split <;> rfl
      · rw [if_neg own, lookup_cons_eq, ih, lookup_cons_eq]
        by_cases same : other = key
        · rw [if_pos same, if_pos same, if_neg (same ▸ Ne.symm own)]
        · rw [if_neg same, if_neg same]

theorem mem_declaredParents_declare {key other upper : TypeKey} {uppers : List TypeKey} :
    upper ∈ (hierarchy.declare key uppers).declaredParents other ↔
      upper ∈ hierarchy.declaredParents other ∨ (other = key ∧ upper ∈ uppers) := by
  rw [declare, declaredParents, lookup_setParents]
  by_cases same : other = key
  · subst same
    simp [mem_addMissing]
  · simp [same, declaredParents]

theorem mem_declaredParents_declaring {calls : List (TypeKey × List TypeKey)}
    {key upper : TypeKey} :
    upper ∈ (declaring calls).declaredParents key ↔ Known calls key upper := by
  induction calls using List.reverseRecOn with
  | nil => simp [declaring, Known, Declares]
  | append_singleton calls call ih =>
      have last : declaring (calls ++ [call]) = (declaring calls).declare call.1 call.2 := by
        simp [declaring]
      rw [last, mem_declaredParents_declare, ih, Known, Known, or_assoc]
      refine or_congr_right ?_
      constructor
      · rintro (⟨uppers, member, above⟩ | ⟨rfl, above⟩)
        · exact ⟨uppers, List.mem_append_left _ member, above⟩
        · exact ⟨call.2, List.mem_append_right _ List.mem_cons_self, above⟩
      · rintro ⟨uppers, member, above⟩
        rcases List.mem_append.1 member with old | new
        · exact .inl ⟨uppers, old, above⟩
        · cases List.mem_singleton.1 new
          exact .inr ⟨rfl, above⟩

theorem mem_parentsOfKey {key upper : TypeKey} :
    upper ∈ hierarchy.parentsOfKey key ↔ upper ∈ hierarchy.declaredParents key ∨
      (hierarchy.declaredParents key = [] ∧ key ≠ .object ∧ upper = .object) := by
  unfold parentsOfKey
  split
  · next none =>
      rw [none]
      by_cases root : key = .object <;> simp [root]
  · next some =>
      simp only [iff_self_or]
      rintro ⟨none, -⟩
      exact absurd none some

theorem mem_parentsOfKey_declaring {calls : List (TypeKey × List TypeKey)} {key upper : TypeKey} :
    upper ∈ (declaring calls).parentsOfKey key ↔ Known calls key upper ∨
      ((∀ other, ¬ Known calls key other) ∧ key ≠ .object ∧ upper = .object) := by
  rw [mem_parentsOfKey, mem_declaredParents_declaring, List.eq_nil_iff_forall_not_mem]
  simp only [mem_declaredParents_declaring]

/-- One key stands directly above another. -/
def Above (hierarchy : TypeHierarchy) (key upper : TypeKey) : Prop :=
  upper ∈ hierarchy.parentsOfKey key

theorem climbs_of_above {key upper : TypeKey} (started : key ∈ start)
    (steps : Relation.ReflTransGen hierarchy.Above key upper) :
    ∃ count, hierarchy.Climbs start count upper := by
  induction steps with
  | refl => exact ⟨1, .first started⟩
  | tail _ edge ih =>
      obtain ⟨count, climbs⟩ := ih
      exact ⟨count + 1, .further climbs edge⟩

theorem standard_above {key upper : TypeKey} (above : upper ∈ standard.declaredParents key) :
    upper = .object := by
  obtain ⟨entry, member, -, within⟩ := mem_declaredParents above
  simp only [standard, List.mem_cons, List.not_mem_nil, or_false] at member
  rcases member with rfl | rfl | rfl <;> exact List.mem_singleton.1 within

theorem root_above_top {calls : List (TypeKey × List TypeKey)} {key : TypeKey}
    (top : ∀ upper, ¬ Declares calls key upper) :
    Relation.ReflTransGen (declaring calls).Above key .object := by
  by_cases root : key = .object
  · rw [root]
  · apply Relation.ReflTransGen.single
    refine mem_parentsOfKey_declaring.2 ?_
    by_cases known : ∃ upper, Known calls key upper
    · obtain ⟨upper, standard | declared⟩ := known
      · rw [standard_above standard] at standard
        exact .inl (.inl standard)
      · exact absurd declared (top upper)
    · exact .inr ⟨not_exists.1 known, root, rfl⟩

/-- Where declarations lead in no circle, the root stands above every key. -/
theorem root_above {calls : List (TypeKey × List TypeKey)}
    (acyclic : ∀ key, ¬ Relation.TransGen (Declares calls) key key) (key : TypeKey) :
    Relation.ReflTransGen (declaring calls).Above key .object := by
  let lower := {key | ∃ upper, Declares calls key upper}
  have finite : lower.Finite := by
    apply (calls.map Prod.fst).finite_toSet.subset
    rintro key ⟨_, uppers, member, -⟩
    exact List.mem_map.2 ⟨_, member, rfl⟩
  have order : IsStrictOrder TypeKey fun upper key =>
      Relation.TransGen (Declares calls) key upper :=
    { irrefl := acyclic, trans := fun _ _ _ first second => second.trans first }
  -- Finitely many types have declared supertypes, so going up from one to another of them ends.
  have ends := finite.wellFoundedOn (r := fun upper key =>
    Relation.TransGen (Declares calls) key upper)
  by_cases below : key ∈ lower
  · apply ends.induction below (P := fun key =>
      Relation.ReflTransGen (declaring calls).Above key .object)
    rintro key ⟨upper, declared⟩ ih
    refine .head (mem_parentsOfKey_declaring.2 (.inl (.inr declared))) ?_
    by_cases further : upper ∈ lower
    · exact ih upper further (.single declared)
    · exact root_above_top (not_exists.1 further)
  · exact root_above_top (not_exists.1 below)

theorem parentsOf_ne_nil {source : TypeDescriptor} (compound : source.isPrimitive = false)
    (notRoot : source.key ≠ .object) : hierarchy.parentsOf source ≠ [] := by
  unfold parentsOf
  dsimp only
  split
  · exact List.cons_ne_nil _ _
  · next some =>
      intro none
      simp [none, compound, notRoot] at some

/-- The distance from a type up to a key is the length of a shortest way, and its ancestors are
what can be reached, nearest first. Where declarations lead in no circle, the root is one of
them. -/
theorem distance_shortest (calls : List (TypeKey × List TypeKey)) :
    let hierarchy := declaring calls
    (∀ key upper, upper ∈ hierarchy.parentsOfKey key ↔ Known calls key upper ∨
      ((∀ other, ¬ Known calls key other) ∧ key ≠ .object ∧ upper = .object)) ∧
    (∀ start, WalkState.Steps hierarchy ⟨start.map (·, 1), []⟩ ⟨[], hierarchy.walk start⟩) ∧
    (∀ source target,
      (hierarchy.distance source target = some 0 ↔ target = source.key) ∧
      (target ≠ source.key →
        (∀ steps, hierarchy.distance source target = some steps ↔
          hierarchy.Nearest (hierarchy.parentsOf source) target steps) ∧
        (hierarchy.distance source target = none ↔
          ∀ steps, ¬ hierarchy.Climbs (hierarchy.parentsOf source) steps target))) ∧
    (∀ source, (hierarchy.ancestors source).Nodup ∧
      (∀ key, key ∈ hierarchy.ancestors source ↔
        ∃ steps, hierarchy.Climbs (hierarchy.parentsOf source) steps key) ∧
      (hierarchy.ancestors source).Pairwise fun one other => ∀ near far,
        hierarchy.Nearest (hierarchy.parentsOf source) one near →
          hierarchy.Nearest (hierarchy.parentsOf source) other far → near ≤ far) ∧
    ((∀ key, ¬ Relation.TransGen (Declares calls) key key) → ∀ source : TypeDescriptor,
      source.isPrimitive = false → source.key ≠ .object →
        .object ∈ hierarchy.ancestors source) := by
  intro hierarchy
  refine ⟨fun _ _ => mem_parentsOfKey_declaring, hierarchy.steps_to_walk, ?_, ?_, ?_⟩
  · intro source target
    refine ⟨?_, ?_⟩
    · rw [distance]
      split
      · next own => simp [own]
      · next other =>
        refine ⟨?_, fun same => absurd same.symm other⟩
        intro found
        exact absurd (lookup_walk_eq_some.1 found).1.pos (Nat.lt_irrefl 0)
    · intro other
      rw [distance, if_neg (Ne.symm other)]
      exact ⟨fun _ => lookup_walk_eq_some, lookup_walk_eq_none⟩
  · intro source
    exact ⟨hierarchy.walk_distinct _, fun _ => mem_walk_fst, hierarchy.walk_fst_sorted _⟩
  · intro acyclic source compound notRoot
    obtain ⟨first, started⟩ := List.exists_mem_of_ne_nil _ (parentsOf_ne_nil compound notRoot)
    exact mem_walk_fst.2 (climbs_of_above started (root_above acyclic first))

/-- An administrator is a user, and a user is a principal. -/
theorem root_above_administrator :
    let calls : List (TypeKey × List TypeKey) :=
      [(⟨"Admin"⟩, [⟨"User"⟩, ⟨"Auditable"⟩]), (⟨"User"⟩, [⟨"Principal"⟩])]
    let source := TypeDescriptor.object ⟨"Admin"⟩
    (∀ key, ¬ Relation.TransGen (Declares calls) key key) ∧ source.isPrimitive = false ∧
      source.key ≠ .object ∧ .object ∈ (declaring calls).ancestors source := by
  intro calls source
  let rank (key : TypeKey) : Nat :=
    if key = ⟨"Admin"⟩ then 0 else if key = ⟨"User"⟩ then 1 else 2
  have rises {key upper : TypeKey} (declared : Declares calls key upper) : rank key < rank upper := by
    obtain ⟨uppers, member, above⟩ := declared
    simp only [calls, List.mem_cons, List.not_mem_nil, or_false, Prod.mk.injEq] at member
    rcases member with ⟨rfl, rfl⟩ | ⟨rfl, rfl⟩
    · simp only [List.mem_cons, List.not_mem_nil, or_false] at above
      rcases above with rfl | rfl <;> decide
    · rw [List.mem_singleton.1 above]
      decide
  have acyclic (key : TypeKey) : ¬ Relation.TransGen (Declares calls) key key := by
    intro circle
    have above {upper : TypeKey} (way : Relation.TransGen (Declares calls) key upper) :
        rank key < rank upper := by
      induction way with
      | single declared => exact rises declared
      | tail _ declared ih => exact ih.trans (rises declared)
    exact Nat.lt_irrefl _ (above circle)
  have compound : source.isPrimitive = false := rfl
  have notRoot : source.key ≠ .object := by decide
  exact ⟨acyclic, compound, notRoot,
    (distance_shortest calls).2.2.2.2 acyclic source compound notRoot⟩

end TypeHierarchy
end RequestDispatch
