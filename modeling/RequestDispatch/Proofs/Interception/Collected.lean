import RequestDispatch.Interception.Declarations
import RequestDispatch.Proofs.Type.Distance

/-!
Which interceptors a method has, and in what order. The lineage of a type is the type itself and
what it inherits from, nearest first, each once. Behind the interceptors declared on the method,
every type of the lineage adds those that are declared on it and nowhere nearer
(`additions_flatten`, `additions_nearest`), so each interceptor stands at its nearest declaration
(`collect_nearest_first`).
-/

namespace RequestDispatch

theorem addMissing_append (present first second : List TypeKey) :
    addMissing present (first ++ second) = addMissing (addMissing present first) second := by
  induction first generalizing present with
  | nil => rfl
  | cons key first ih => exact ih _

theorem filter_eraseDups (keep : TypeKey → Bool) (keys : List TypeKey) :
    (keys.filter keep).eraseDups = keys.eraseDups.filter keep := by
  -- The first occurrence of a key takes all others away, so the induction is on the length.
  induction count : keys.length using Nat.strong_induction_on generalizing keys with
  | h size ih =>
      cases keys with
      | nil => rfl
      | cons key rest =>
          let others := rest.filter fun other => !other == key
          have shorter : others.length < size := by
            have bound : others.length ≤ rest.length := List.length_filter_le _ rest
            rw [List.length_cons] at count
            omega
          have swapped : (rest.filter keep).filter (fun other => !other == key) =
              others.filter keep := by
            rw [List.filter_filter, List.filter_filter]
            apply List.filter_congr
            intro other _
            exact Bool.and_comm _ _
          rw [List.eraseDups_cons, List.filter_cons, List.filter_cons, ← ih _ shorter others rfl]
          cases kept : keep key with
          | true => rw [if_pos rfl, if_pos rfl, List.eraseDups_cons, swapped]
          | false =>
              have same : (rest.filter keep).filter (fun other => !other == key) =
                  rest.filter keep := by
                apply List.filter_eq_self.2
                intro other member
                have different : other ≠ key := by
                  rintro rfl
                  rw [List.mem_filter, kept] at member
                  exact Bool.false_ne_true member.2
                simpa using different
              rw [if_neg Bool.false_ne_true, if_neg Bool.false_ne_true, ← swapped, same]

theorem addMissing_eq_self {present keys : List TypeKey} (known : keys ⊆ present) :
    addMissing present keys = present := by
  induction keys with
  | nil => rfl
  | cons key rest ih =>
      have member : key ∈ present := known List.mem_cons_self
      rw [addMissing, if_pos (by simpa using member)]
      exact ih fun _ later => known (List.mem_cons_of_mem key later)

theorem addMissing_without {α : Type} (keys : α → List TypeKey) (keep : α → Bool)
    {present : List TypeKey} (types : List α)
    (known : ∀ type, keep type = false → keys type ⊆ present) :
    addMissing present (types.flatMap keys) =
      addMissing present ((types.filter keep).flatMap keys) := by
  induction types generalizing present with
  | nil => rfl
  | cons type rest ih =>
      rw [List.flatMap_cons, addMissing_append, List.filter_cons]
      cases kept : keep type with
      | true =>
          rw [if_pos rfl, List.flatMap_cons, addMissing_append]
          refine ih fun other out key member => ?_
          exact mem_addMissing.2 (.inl (known other out member))
      | false =>
          rw [if_neg Bool.false_ne_true, addMissing_eq_self (known type kept)]
          exact ih known

namespace TypeHierarchy

variable {hierarchy : TypeHierarchy} {owner type : TypeKey} {steps : Nat}

/-- The types from which methods of a type inherit, each with its distance, nearest first. -/
def lineage (hierarchy : TypeHierarchy) (owner : TypeKey) : List (TypeKey × Nat) :=
  (owner, 0) :: (hierarchy.walk (hierarchy.parentsOfKey owner)).filter fun entry => entry.1 ≠ owner

theorem mem_lineage :
    (type, steps) ∈ hierarchy.lineage owner ↔ hierarchy.keyDistance owner type = some steps := by
  rw [lineage, keyDistance, List.mem_cons, List.mem_filter, mem_walk]
  by_cases own : owner = type
  · subst own
    simp [eq_comm]
  · simp [own, Ne.symm own, lookup_walk_eq_some]

theorem lineage_distinct (hierarchy : TypeHierarchy) (owner : TypeKey) :
    ((hierarchy.lineage owner).map Prod.fst).Nodup := by
  rw [lineage, List.map_cons, List.nodup_cons]
  constructor
  · simp
  · exact (hierarchy.walk_distinct _).sublist (List.filter_sublist.map Prod.fst)

theorem lineage_sorted (hierarchy : TypeHierarchy) (owner : TypeKey) :
    (hierarchy.lineage owner).Pairwise fun one other => one.2 ≤ other.2 :=
  .cons (fun _ _ => Nat.zero_le _) ((hierarchy.walk_sorted _).filter _)

end TypeHierarchy

namespace InterceptorDeclarations

variable {declarations : InterceptorDeclarations} {hierarchy : TypeHierarchy}
  {present : List TypeKey} {interceptor : TypeKey}

theorem mem_ofMethod {method : MethodKey} :
    interceptor ∈ declarations.ofMethod method ↔ (method, interceptor) ∈ declarations.onMethods := by
  simp [ofMethod]

theorem mem_ofType {type : TypeKey} :
    interceptor ∈ declarations.ofType type ↔ (type, interceptor) ∈ declarations.onTypes := by
  simp [ofType]

/-- What each type in turn adds to the interceptors present. -/
def additions (declarations : InterceptorDeclarations) (present : List TypeKey) :
    List (TypeKey × Nat) → List (TypeKey × List TypeKey)
  | [] => []
  | (type, _) :: rest =>
    let added := ((declarations.ofType type).filter fun key => !present.contains key).eraseDups
    (type, added) :: additions declarations (present ++ added) rest

theorem additions_types (types : List (TypeKey × Nat)) :
    (declarations.additions present types).map Prod.fst = types.map Prod.fst := by
  induction types generalizing present with
  | nil => rfl
  | cons entry rest ih =>
      rw [additions, List.map_cons, List.map_cons, ih]

theorem additions_flatten (types : List (TypeKey × Nat)) :
    addMissing present (types.flatMap fun entry => declarations.ofType entry.1) =
      present ++ (declarations.additions present types).flatMap Prod.snd := by
  induction types generalizing present with
  | nil => simp [addMissing, additions]
  | cons entry rest ih =>
      rw [List.flatMap_cons, addMissing_append, addMissing_eq present, ih, additions,
        List.flatMap_cons, List.append_assoc]

theorem additions_declared {types : List (TypeKey × Nat)} {block : TypeKey × List TypeKey}
    (member : block ∈ declarations.additions present types) :
    block.2.Sublist (declarations.ofType block.1).eraseDups := by
  induction types generalizing present with
  | nil => cases member
  | cons entry rest ih =>
      rcases List.mem_cons.1 member with rfl | later
      · rw [filter_eraseDups]
        exact List.filter_sublist
      · exact ih later

/-- A type adds what is not present and what no type before it declares. -/
theorem additions_nearest {types : List (TypeKey × Nat)} {block : TypeKey × List TypeKey}
    (member : block ∈ declarations.additions present types) (added : interceptor ∈ block.2) :
    interceptor ∉ present ∧ interceptor ∈ declarations.ofType block.1 ∧
      ∃ before steps after, types = before ++ (block.1, steps) :: after ∧
        ∀ earlier ∈ before, interceptor ∉ declarations.ofType earlier.1 := by
  induction types generalizing present with
  | nil => cases member
  | cons entry rest ih =>
      rcases List.mem_cons.1 member with rfl | later
      · rw [List.mem_eraseDups, List.mem_filter] at added
        refine ⟨by simpa using added.2, added.1, [], entry.2, rest, rfl, ?_⟩
        simp
      · obtain ⟨absent, declared, before, steps, after, rfl, apart⟩ := ih later
        rw [List.mem_append, not_or] at absent
        refine ⟨absent.1, declared, entry :: before, steps, after, rfl, ?_⟩
        intro earlier listed
        rcases List.mem_cons.1 listed with rfl | listed
        · intro own
          have fresh := absent.2
          rw [List.mem_eraseDups, List.mem_filter] at fresh
          exact fresh ⟨own, by simpa using absent.1⟩
        · exact apart earlier listed

/-- An interceptor is declared on a type that stands so far above the owner of a method. -/
def Inherits (declarations : InterceptorDeclarations) (hierarchy : TypeHierarchy)
    (owner interceptor : TypeKey) (steps : Nat) : Prop :=
  ∃ type, (type, interceptor) ∈ declarations.onTypes ∧ hierarchy.keyDistance owner type = some steps

variable {method : MethodKey}

theorem collect_lineage (declarations : InterceptorDeclarations) (method : MethodKey)
    (hierarchy : TypeHierarchy) :
    declarations.collect method hierarchy = addMissing (declarations.ofMethod method).eraseDups
      ((hierarchy.lineage method.owner).flatMap fun entry => declarations.ofType entry.1) := by
  have own : ((declarations.ofMethod method).filter fun key => !([] : List TypeKey).contains key) =
      declarations.ofMethod method := by simp
  rw [TypeHierarchy.lineage, List.flatMap_cons, addMissing_append, collect, List.append_assoc,
    addMissing_append, addMissing_append, addMissing_eq [], own, List.nil_append,
    TypeHierarchy.ancestorsOfKey, List.flatMap_map]
  -- In a circle of declarations the owner comes again, when its interceptors are there already.
  apply addMissing_without
  intro entry again key member
  have owner : entry.1 = method.owner := by simpa using again
  rw [owner] at member
  exact mem_addMissing.2 (.inr member)

theorem mem_collect :
    interceptor ∈ declarations.collect method hierarchy ↔
      (method, interceptor) ∈ declarations.onMethods ∨
        ∃ steps, declarations.Inherits hierarchy method.owner interceptor steps := by
  rw [collect_lineage, mem_addMissing, List.mem_eraseDups, mem_ofMethod, List.mem_flatMap]
  refine or_congr_right ?_
  constructor
  · rintro ⟨⟨type, steps⟩, member, declared⟩
    exact ⟨steps, type, mem_ofType.1 declared, TypeHierarchy.mem_lineage.1 member⟩
  · rintro ⟨steps, type, declared, distance⟩
    exact ⟨(type, steps), TypeHierarchy.mem_lineage.2 distance, mem_ofType.2 declared⟩

theorem nodup_collect (declarations : InterceptorDeclarations) (method : MethodKey)
    (hierarchy : TypeHierarchy) : (declarations.collect method hierarchy).Nodup :=
  nodup_addMissing List.nodup_nil _

theorem nearest_of_addition {owner : TypeKey} {block : TypeKey × List TypeKey}
    (member : block ∈ declarations.additions present (hierarchy.lineage owner))
    (added : interceptor ∈ block.2) :
    ∃ steps, hierarchy.keyDistance owner block.1 = some steps ∧
      IsLeast {count | declarations.Inherits hierarchy owner interceptor count} steps := by
  obtain ⟨-, declared, before, steps, after, split, apart⟩ := additions_nearest member added
  have sorted := hierarchy.lineage_sorted owner
  rw [split, List.pairwise_append, List.pairwise_cons] at sorted
  have distance : hierarchy.keyDistance owner block.1 = some steps := by
    apply TypeHierarchy.mem_lineage.1
    simp [split]
  refine ⟨steps, distance, ⟨block.1, mem_ofType.1 declared, distance⟩, ?_⟩
  rintro count ⟨type, also, other⟩
  have listed := TypeHierarchy.mem_lineage.2 other
  rw [split, List.mem_append, List.mem_cons] at listed
  rcases listed with earlier | same | later
  · exact absurd (mem_ofType.2 also) (apart _ earlier)
  · rw [(Prod.mk.inj same).2]
  · exact sorted.2.1.1 _ later

theorem additions_sorted (present : List TypeKey) (owner : TypeKey) :
    ((declarations.additions present (hierarchy.lineage owner)).flatMap Prod.snd).Pairwise
      fun one other => ∀ near far,
        IsLeast {count | declarations.Inherits hierarchy owner one count} near →
          IsLeast {count | declarations.Inherits hierarchy owner other count} far → near ≤ far := by
  have types : ((declarations.additions present (hierarchy.lineage owner)).map Prod.fst).Pairwise
      fun one other => ∀ near far, hierarchy.keyDistance owner one = some near →
        hierarchy.keyDistance owner other = some far → near ≤ far := by
    rw [additions_types, List.pairwise_map]
    refine (hierarchy.lineage_sorted owner).imp_of_mem ?_
    intro one other listed alsoListed order near far nearest further
    rw [TypeHierarchy.mem_lineage.1 listed] at nearest
    rw [TypeHierarchy.mem_lineage.1 alsoListed] at further
    rw [← Option.some.inj nearest, ← Option.some.inj further]
    exact order
  rw [List.pairwise_map] at types
  rw [List.pairwise_flatMap]
  constructor
  · intro block member
    apply List.pairwise_of_forall_mem_list
    intro one added other alsoAdded near far nearest further
    obtain ⟨steps, distance, least⟩ := nearest_of_addition member added
    obtain ⟨alsoSteps, alsoDistance, alsoLeast⟩ := nearest_of_addition member alsoAdded
    rw [distance] at alsoDistance
    rw [nearest.unique least, further.unique alsoLeast, Option.some.inj alsoDistance]
  · refine types.imp_of_mem ?_
    intro first second member alsoMember order one added other alsoAdded near far nearest further
    obtain ⟨steps, distance, least⟩ := nearest_of_addition member added
    obtain ⟨alsoSteps, alsoDistance, alsoLeast⟩ := nearest_of_addition alsoMember alsoAdded
    rw [nearest.unique least, further.unique alsoLeast]
    exact order steps alsoSteps distance alsoDistance

/-- The interceptors of a method are those declared on it and, once each, those declared on types
that it inherits from, the nearest declaration of each counting. -/
theorem collect_nearest_first (declarations : InterceptorDeclarations) (method : MethodKey)
    (hierarchy : TypeHierarchy) :
    let collected := declarations.collect method hierarchy
    let nearest (interceptor : TypeKey) (steps : Nat) : Prop :=
      IsLeast {count | declarations.Inherits hierarchy method.owner interceptor count} steps
    collected.Nodup ∧
    (∀ interceptor, interceptor ∈ collected ↔ (method, interceptor) ∈ declarations.onMethods ∨
      ∃ steps, declarations.Inherits hierarchy method.owner interceptor steps) ∧
    ∃ blocks : List (TypeKey × List TypeKey),
      collected = (declarations.ofMethod method).eraseDups ++ blocks.flatMap Prod.snd ∧
      (blocks.map Prod.fst).Nodup ∧
      (∀ block ∈ blocks, block.2.Sublist (declarations.ofType block.1).eraseDups ∧
        ∀ interceptor ∈ block.2, (method, interceptor) ∉ declarations.onMethods ∧
          ∃ steps, hierarchy.keyDistance method.owner block.1 = some steps ∧
            nearest interceptor steps) ∧
      (blocks.flatMap Prod.snd).Pairwise fun one other => ∀ near far,
        nearest one near → nearest other far → near ≤ far := by
  refine ⟨nodup_collect declarations method hierarchy, fun _ => mem_collect, ?_⟩
  refine ⟨declarations.additions (declarations.ofMethod method).eraseDups
    (hierarchy.lineage method.owner), ?_, ?_, ?_, additions_sorted _ _⟩
  · rw [collect_lineage, additions_flatten]
  · rw [additions_types]
    exact hierarchy.lineage_distinct method.owner
  · intro block member
    refine ⟨additions_declared member, ?_⟩
    intro interceptor added
    have absent := (additions_nearest member added).1
    rw [List.mem_eraseDups, mem_ofMethod] at absent
    exact ⟨absent, nearest_of_addition member added⟩

end InterceptorDeclarations
end RequestDispatch
