import RequestDispatch.Proofs.Type.Distance

/-!
What the shape of a type adds to its key. A described type stands below supertypes that its shape
implies, and below the root if it has no others and is not primitive; of a mere key only the second
is known. Where neither the root nor an implied supertype leads to a target, both are at the same
distance from it (`distance_eq_keyDistance`).
-/

namespace RequestDispatch
namespace TypeHierarchy

variable {hierarchy : TypeHierarchy} {start other : List TypeKey} {key upper target : TypeKey}
  {source : TypeDescriptor} {steps : Nat}

theorem known_above
    (known : upper ∈ hierarchy.declaredParents source.key ∨ upper ∈ source.impliedParents) :
    upper ∈ hierarchy.parentsOf source := by
  rw [← mem_addMissing] at known
  unfold parentsOf
  dsimp only
  rw [List.isEmpty_eq_false_iff.2 (List.ne_nil_of_mem known)]
  exact known

theorem above_cases (above : upper ∈ hierarchy.parentsOf source) :
    upper ∈ hierarchy.declaredParents source.key ∨ upper ∈ .object :: source.impliedParents := by
  unfold parentsOf at above
  dsimp only at above
  split at above
  · exact .inr (List.mem_cons.2 (.inl (List.mem_singleton.1 above)))
  · exact (mem_addMissing.1 above).imp_right (List.mem_cons_of_mem _)

theorem Climbs.begins (climbs : hierarchy.Climbs start steps upper) :
    ∃ key ∈ start, hierarchy.Climbs [key] steps upper := by
  induction climbs with
  | first started => exact ⟨_, started, .first (List.mem_singleton.2 rfl)⟩
  | further _ edge ih =>
      obtain ⟨key, started, climbs⟩ := ih
      exact ⟨key, started, .further climbs edge⟩

/-- Nothing stands above a primitive type for which no supertypes are declared. -/
theorem primitive_isolated (primitive : source.isPrimitive = true)
    (undeclared : hierarchy.declaredParents source.key = []) (other : source.key ≠ target) :
    hierarchy.distance source target = none := by
  have unshaped : source.impliedParents = [] := by
    obtain ⟨key, kind⟩ := source
    cases kind with
    | primitive => rfl
    | _ => cases primitive
  have top : hierarchy.parentsOf source = [] := by
    simp [parentsOf, undeclared, unshaped, primitive, addMissing]
  rw [distance, if_neg other, top, lookup_walk_eq_none]
  intro steps climbs
  obtain ⟨upper, started, -⟩ := climbs.begins
  cases started

theorem Climbs.restart (climbs : hierarchy.Climbs [key] steps upper) (started : key ∈ other) :
    hierarchy.Climbs other steps upper := by
  induction climbs with
  | first same => exact .first (List.mem_singleton.1 same ▸ started)
  | further _ edge ih => exact .further ih edge

theorem Climbs.beyond (climbs : hierarchy.Climbs [key] steps upper) :
    upper = key ∨ ∃ fewer, hierarchy.Climbs (hierarchy.parentsOfKey key) fewer upper := by
  induction climbs with
  | first same => exact .inl (List.mem_singleton.1 same)
  | further _ edge ih =>
      rcases ih with rfl | ⟨fewer, climbs⟩
      · exact .inr ⟨1, .first edge⟩
      · exact .inr ⟨fewer + 1, .further climbs edge⟩

theorem not_climbs_of_far (far : hierarchy.keyDistance key target = none) :
    ¬hierarchy.Climbs [key] steps target := by
  intro climbs
  rw [keyDistance] at far
  split at far
  · cases far
  · next apart =>
    rcases climbs.beyond with same | ⟨fewer, climbs⟩
    · exact apart same.symm
    · exact lookup_walk_eq_none.1 far fewer climbs

theorem lookup_walk_congr (same : ∀ steps, hierarchy.Climbs start steps target ↔
      hierarchy.Climbs other steps target) :
    (hierarchy.walk start).lookup target = (hierarchy.walk other).lookup target := by
  apply Option.ext
  intro steps
  rw [lookup_walk_eq_some, lookup_walk_eq_some, Nearest, Nearest]
  simp only [same]

theorem distance_eq_keyDistance
    (far : ∀ upper ∈ .object :: source.impliedParents, hierarchy.keyDistance upper target = none) :
    hierarchy.distance source target = hierarchy.keyDistance source.key target := by
  rw [distance, keyDistance]
  split
  · rfl
  · apply lookup_walk_congr
    intro steps
    constructor
    · intro climbs
      obtain ⟨upper, above, climbs⟩ := climbs.begins
      rcases above_cases above with declared | implied
      · exact climbs.restart (mem_parentsOfKey.2 (.inl declared))
      · exact absurd climbs (not_climbs_of_far (far upper implied))
    · intro climbs
      obtain ⟨upper, above, climbs⟩ := climbs.begins
      rcases mem_parentsOfKey.1 above with declared | ⟨-, -, rfl⟩
      · exact climbs.restart (known_above (.inl declared))
      · exact absurd climbs (not_climbs_of_far (far .object List.mem_cons_self))

end TypeHierarchy
end RequestDispatch
