import Mathlib.Data.List.Induction
import RequestDispatch.Proofs.Conversion.Cache

/-!
The nearest registered converter. Where a type has no converter of its own and is no array, what is
found for it is the first of the registered converters that serve it at the fewest steps
(`find_eq_ok_iff`), and nothing is found only if none serves it (`find_eq_no_converter_iff`).
-/

namespace RequestDispatch

section

variable {α : Type}

def FirstNearest (reaches : α → Nat → Prop) (entries : List α) (chosen : α) (steps : Nat) : Prop :=
  ∃ front back, entries = front ++ chosen :: back ∧ reaches chosen steps ∧
    (∀ earlier ∈ front, ∀ other, reaches earlier other → steps < other) ∧
    ∀ later ∈ back, ∀ other, reaches later other → steps ≤ other

variable {reaches : α → Nat → Prop} {entries : List α} {chosen last : α} {steps : Nat}

theorem FirstNearest.mem (nearest : FirstNearest reaches entries chosen steps) :
    chosen ∈ entries ∧ reaches chosen steps := by
  obtain ⟨front, back, rfl, near, -⟩ := nearest
  exact ⟨by simp, near⟩

/-- One more entry at the end is chosen only if it is nearer than all before. -/
theorem first_nearest_concat :
    FirstNearest reaches (entries ++ [last]) chosen steps ↔
      (FirstNearest reaches entries chosen steps ∧ ∀ other, reaches last other → steps ≤ other) ∨
        (chosen = last ∧ reaches last steps ∧
          ∀ entry ∈ entries, ∀ other, reaches entry other → steps < other) := by
  constructor
  · rintro ⟨front, back, divided, near, before, behind⟩
    rcases List.eq_nil_or_concat back with rfl | ⟨others, final, rfl⟩
    · obtain ⟨rfl, same⟩ := List.append_inj' divided rfl
      cases same
      exact .inr ⟨rfl, near, before⟩
    · rw [List.concat_eq_append, ← List.cons_append, ← List.append_assoc] at divided
      obtain ⟨rfl, same⟩ := List.append_inj' divided rfl
      cases same
      refine .inl ⟨⟨front, others, rfl, near, before, ?_⟩, behind last (by simp)⟩
      exact fun later member => behind later (by simp [member])
  · rintro (⟨⟨front, back, rfl, near, before, behind⟩, bound⟩ | ⟨rfl, near, before⟩)
    · refine ⟨front, back ++ [last], by simp, near, before, ?_⟩
      intro later member
      rw [List.mem_append, List.mem_singleton] at member
      rcases member with member | rfl
      · exact behind later member
      · exact bound
    · exact ⟨entries, [], rfl, near, before, by simp⟩

theorem FirstNearest.bound (nearest : FirstNearest reaches entries chosen steps)
    (once : ∀ other, reaches chosen other → other = steps) :
    ∀ entry ∈ entries, ∀ other, reaches entry other → steps ≤ other := by
  obtain ⟨front, back, rfl, -, before, behind⟩ := nearest
  intro entry member other near
  rw [List.mem_append, List.mem_cons] at member
  rcases member with earlier | rfl | later
  · exact (before entry earlier other near).le
  · exact (once other near).ge
  · exact behind entry later other near

theorem FirstNearest.unique {rival : α} {count : Nat}
    (nearest : FirstNearest reaches entries chosen steps)
    (also : FirstNearest reaches entries rival count) : chosen = rival := by
  induction entries using List.reverseRecOn with
  | nil => cases nearest.mem.1
  | append_singleton entries last ih =>
      rcases first_nearest_concat.1 nearest with ⟨earlier, bound⟩ | ⟨rfl, near, nearer⟩
      · rcases first_nearest_concat.1 also with ⟨alsoEarlier, -⟩ | ⟨rfl, near, nearer⟩
        · exact ih earlier alsoEarlier
        · have less := nearer chosen earlier.mem.1 steps earlier.mem.2
          exact absurd less (Nat.not_lt.2 (bound count near))
      · rcases first_nearest_concat.1 also with ⟨earlier, bound⟩ | ⟨rfl, -⟩
        · have less := nearer rival earlier.mem.1 count earlier.mem.2
          exact absurd less (Nat.not_lt.2 (bound steps near))
        · rfl

end

/-- A registered converter serves the target at so many steps: they lead from the type it is
registered for up to the target or, where none do and the converter constructs subtypes, from the
target up to that type. -/
inductive Serves (hierarchy : TypeHierarchy) (target : TypeDescriptor) :
    TypeKey × Converter → Nat → Prop
  | below {entry : TypeKey × Converter} {steps : Nat} :
      hierarchy.keyDistance entry.1 target.key = some steps → Serves hierarchy target entry steps
  | above {entry : TypeKey × Converter} {steps : Nat} :
      hierarchy.keyDistance entry.1 target.key = none → entry.2.constructsSubtypes = true →
      hierarchy.distance target entry.1 = some steps → Serves hierarchy target entry steps

namespace ConversionService

variable {service base : ConversionService} {target : TypeDescriptor}
  {entries : List (TypeKey × Converter)} {entry : TypeKey × Converter} {steps : Nat}
  {converter : Converter}

theorem distance_eq_some_iff :
    service.converterDistance target entry = some steps ↔
      Serves service.hierarchy target entry steps := by
  rw [converterDistance]
  constructor
  · intro near
    split at near
    · next below => cases near; exact .below below
    · next far =>
      split at near
      · next subtypes => exact .above far subtypes near
      · cases near
  · intro serves
    cases serves with
    | below near => rw [near]
    | above far subtypes near => rw [far]; simp only [subtypes, near, if_true]

theorem distance_eq_none_iff :
    service.converterDistance target entry = none ↔
      ∀ steps, ¬Serves service.hierarchy target entry steps := by
  simp only [← distance_eq_some_iff, Option.eq_none_iff_forall_ne_some, ne_eq]

theorem fold_nearer_eq_none :
    entries.foldl (service.nearer target) none = none ↔
      ∀ entry ∈ entries, ∀ steps, ¬Serves service.hierarchy target entry steps := by
  induction entries using List.reverseRecOn with
  | nil => simp
  | append_singleton entries last ih =>
      rw [List.foldl_append, List.foldl_cons, List.foldl_nil, List.forall_mem_append,
        List.forall_mem_singleton, ← ih, ← distance_eq_none_iff, nearer]
      cases service.converterDistance target last with
      | none => simp
      | some distance =>
          cases entries.foldl (service.nearer target) none with
          | none => simp
          | some best => dsimp only; split <;> simp

/-- The search ends with the first of the entries that are nearest. -/
theorem first_nearest_of_fold
    (found : entries.foldl (service.nearer target) none = some (steps, converter)) :
    ∃ entry, FirstNearest (Serves service.hierarchy target) entries entry steps ∧
      entry.2 = converter := by
  induction entries using List.reverseRecOn generalizing steps converter with
  | nil => cases found
  | append_singleton entries last ih =>
      have once {entry : TypeKey × Converter} {one other : Nat}
          (serves : Serves service.hierarchy target entry one)
          (also : Serves service.hierarchy target entry other) : other = one := by
        rw [← distance_eq_some_iff] at serves also
        exact Option.some_inj.1 (also.symm.trans serves)
      simp only [List.foldl_append, List.foldl_cons, List.foldl_nil, nearer] at found
      simp only [first_nearest_concat]
      cases near : service.converterDistance target last with
      | none =>
          rw [near] at found
          obtain ⟨entry, nearest, same⟩ := ih found
          have far := distance_eq_none_iff.1 near
          exact ⟨entry, .inl ⟨nearest, fun other serves => absurd serves (far other)⟩, same⟩
      | some distance =>
          have own : Serves service.hierarchy target last distance := distance_eq_some_iff.1 near
          rw [near] at found
          cases current : entries.foldl (service.nearer target) none with
          | none =>
              rw [current] at found
              cases found
              have far := fold_nearer_eq_none.1 current
              exact ⟨last, .inr ⟨rfl, own, fun entry member other serves =>
                absurd serves (far entry member other)⟩, rfl⟩
          | some best =>
              rw [current] at found
              obtain ⟨first, nearest, kept⟩ := ih current
              dsimp only at found
              split at found
              · next less =>
                cases found
                have bound := nearest.bound fun other => once nearest.mem.2
                exact ⟨last, .inr ⟨rfl, own, fun entry member other serves =>
                  less.trans_le (bound entry member other serves)⟩, rfl⟩
              · next more =>
                cases found
                refine ⟨first, .inl ⟨nearest, fun other serves => ?_⟩, kept⟩
                rw [once own serves]
                exact Nat.not_lt.1 more

theorem closest_eq_none :
    service.closest? target = none ↔
      ∀ entry ∈ service.registered, ∀ steps, ¬Serves service.hierarchy target entry steps := by
  rw [closest?, Option.map_eq_none_iff, fold_nearer_eq_none]

theorem closest_eq_some :
    service.closest? target = some converter ↔ ∃ entry steps,
      FirstNearest (Serves service.hierarchy target) service.registered entry steps ∧
        entry.2 = converter := by
  constructor
  · intro found
    obtain ⟨⟨steps, _⟩, last, rfl⟩ := Option.map_eq_some_iff.1 found
    obtain ⟨entry, nearest, same⟩ := first_nearest_of_fold last
    exact ⟨entry, steps, nearest, same⟩
  · rintro ⟨entry, steps, nearest, rfl⟩
    rw [closest?]
    cases last : service.registered.foldl (service.nearer target) none with
    | none =>
        exact absurd nearest.mem.2 (fold_nearer_eq_none.1 last entry nearest.mem.1 steps)
    | some best =>
        obtain ⟨other, also, same⟩ := first_nearest_of_fold last
        rw [nearest.unique also, same]
        rfl

theorem find_eq_closest (unregistered : base.registered.lookup target.key = none)
    (single : target.isArray = false) :
    base.find target =
      match base.closest? target with
      | some converter => .ok converter
      | none => .error (.noConverter target.key) := by
  obtain ⟨key, kind⟩ := target
  refine find_closest unregistered ?_
  rintro element rfl
  cases single

theorem find_eq_ok_iff (unregistered : base.registered.lookup target.key = none)
    (single : target.isArray = false) :
    base.find target = .ok converter ↔ ∃ entry steps,
      FirstNearest (Serves base.hierarchy target) base.registered entry steps ∧
        entry.2 = converter := by
  rw [find_eq_closest unregistered single, ← closest_eq_some]
  cases base.closest? target <;> simp

theorem find_eq_no_converter_iff (unregistered : base.registered.lookup target.key = none)
    (single : target.isArray = false) :
    base.find target = .error (.noConverter target.key) ↔
      ∀ entry ∈ base.registered, ∀ steps, ¬Serves base.hierarchy target entry steps := by
  rw [find_eq_closest unregistered single, ← closest_eq_none]
  cases base.closest? target <;> simp

end ConversionService
end RequestDispatch
