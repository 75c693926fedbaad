import RequestDispatch.Proofs.Conversion.Registration
import RequestDispatch.Proofs.Conversion.Separation
import RequestDispatch.Proofs.Type.Implied

/-!
Built-in converters by assignability. The search for the nearest converter measures from the bare
keys of the registered types, while the hierarchy lets the shape of a type imply supertypes. Where
both measure alike, what is found for an object type is the converter of the nearest type that may
stand where the object type is asked for, or that of enumerations if these are nearer above it
(`lookup_by_assignability`).
-/

namespace RequestDispatch

section

variable {α β : Type} {reaches also : α → Nat → Prop} {steps : Nat}

theorem FirstNearest.imp {entries : List α} {chosen : α}
    (same : ∀ entry ∈ entries, ∀ steps, reaches entry steps ↔ also entry steps)
    (nearest : FirstNearest reaches entries chosen steps) :
    FirstNearest also entries chosen steps := by
  obtain ⟨front, back, rfl, near, before, behind⟩ := nearest
  refine ⟨front, back, rfl, (same chosen (by simp) steps).1 near, ?_, ?_⟩
  · intro earlier member other reached
    exact before earlier member other ((same earlier (by simp [member]) other).2 reached)
  · intro later member other reached
    exact behind later member other ((same later (by simp [member]) other).2 reached)

theorem first_nearest_map {reaches : β → Nat → Prop} {name : α → β} {entries : List α}
    {chosen : β} :
    FirstNearest reaches (entries.map name) chosen steps ↔
      ∃ entry, FirstNearest (fun entry => reaches (name entry)) entries entry steps ∧
        name entry = chosen := by
  constructor
  · rintro ⟨front, back, divided, near, before, behind⟩
    obtain ⟨first, rest, rfl, rfl, same⟩ := List.map_eq_append_iff.1 divided
    obtain ⟨entry, last, rfl, rfl, rfl⟩ := List.map_eq_cons_iff.1 same
    rw [List.forall_mem_map] at before behind
    exact ⟨entry, ⟨first, last, rfl, near, before, behind⟩, rfl⟩
  · rintro ⟨entry, ⟨front, back, rfl, near, before, behind⟩, rfl⟩
    refine ⟨front.map name, back.map name, by simp, near, ?_, ?_⟩
    · rwa [List.forall_mem_map]
    · rwa [List.forall_mem_map]

end

/-- A described type with a converter suits the target at so many steps: they lead from it up to the
target or, where it is not assignable to the target and the converter constructs subtypes, from the
target up to it. -/
inductive Suits (hierarchy : TypeHierarchy) (target : TypeDescriptor) :
    TypeDescriptor × Converter → Nat → Prop
  | below {entry : TypeDescriptor × Converter} {steps : Nat} :
      hierarchy.distance entry.1 target.key = some steps → Suits hierarchy target entry steps
  | above {entry : TypeDescriptor × Converter} {steps : Nat} :
      hierarchy.isAssignable entry.1 target.key = false → entry.2.constructsSubtypes = true →
      hierarchy.distance target entry.1.key = some steps → Suits hierarchy target entry steps

namespace ConversionService

/-- The types of the built-in converters in their order, each with its converter. Enumerations are
represented by the type above them. -/
def builtInTypes : List (TypeDescriptor × Converter) :=
  (Primitive.all.flatMap fun primitive =>
    [(.primitive primitive, primitiveConverter primitive),
      (.boxed primitive, primitiveConverter primitive)]) ++
    [(.text, .text), (.object .enumeration, .variant)]

theorem built_in_keys : builtIn = builtInTypes.map (Prod.map TypeDescriptor.key id) := rfl

theorem standard_registered (hierarchy : TypeHierarchy) :
    (standard hierarchy).registered = builtInTypes.map (Prod.map TypeDescriptor.key id) :=
  standard_hasBuiltIn hierarchy

theorem standard_hierarchy (hierarchy : TypeHierarchy) :
    (standard hierarchy).hierarchy = hierarchy :=
  fresh_hierarchy hierarchy builtIn

/-- From every type with a built-in converter the key is as far as from the bare key of that
type. -/
def MeasuredAlike (hierarchy : TypeHierarchy) (key : TypeKey) : Prop :=
  ∀ entry ∈ builtInTypes,
    hierarchy.distance entry.1 key = hierarchy.keyDistance entry.1.key key

variable {hierarchy : TypeHierarchy} {key : TypeKey}

theorem mem_built_in_types {entry : TypeDescriptor × Converter} (member : entry ∈ builtInTypes) :
    (∃ held, entry = (.primitive held, primitiveConverter held) ∨
      entry = (.boxed held, primitiveConverter held)) ∨
    entry = (.text, .text) ∨ entry = (.object .enumeration, .variant) := by
  simp only [builtInTypes, List.mem_append, List.mem_flatMap, List.mem_cons, List.not_mem_nil,
    or_false] at member
  rcases member with ⟨held, -, own⟩ | other
  · exact .inl ⟨held, own⟩
  · exact .inr other

theorem built_in_implied {entry : TypeDescriptor × Converter} (member : entry ∈ builtInTypes)
    {upper : TypeKey} (implied : upper ∈ entry.1.impliedParents) :
    upper = .number ∨ upper = .characters := by
  rcases mem_built_in_types member with ⟨primitive, rfl | rfl⟩ | rfl | rfl
  · cases implied
  · change upper ∈ if primitive.isNumeric then [TypeKey.number] else [] at implied
    split at implied
    · exact .inl (List.mem_singleton.1 implied)
    · cases implied
  · exact .inr (List.mem_singleton.1 implied)
  · cases implied

/-- Types that are neither the root nor a supertype of numbers or texts, and stand above none. -/
theorem measured_alike
    (far : ∀ upper ∈ [.object, .number, .characters], hierarchy.keyDistance upper key = none) :
    MeasuredAlike hierarchy key := by
  intro entry member
  apply TypeHierarchy.distance_eq_keyDistance
  intro upper above
  apply far
  rcases List.mem_cons.1 above with rfl | implied
  · simp
  · rcases built_in_implied member implied with rfl | rfl <;> simp

theorem not_assignable_iff {source : TypeDescriptor} :
    hierarchy.isAssignable source key = false ↔ hierarchy.distance source key = none := by
  rw [TypeHierarchy.isAssignable, Option.isSome_eq_false_iff, Option.isNone_iff_eq_none]

theorem suits_iff_serves (alike : MeasuredAlike hierarchy key) :
    ∀ entry ∈ builtInTypes, ∀ steps, Suits hierarchy (.object key) entry steps ↔
      Serves hierarchy (.object key) (Prod.map TypeDescriptor.key id entry) steps := by
  intro entry member steps
  have same := alike entry member
  constructor
  · intro suits
    cases suits with
    | below near => exact .below (same.symm.trans near)
    | above far subtypes near =>
        exact .above (same.symm.trans (not_assignable_iff.1 far)) subtypes near
  · intro serves
    cases serves with
    | below near => exact .below (same.trans near)
    | above far subtypes near =>
        exact .above (not_assignable_iff.2 (same.trans far)) subtypes near

theorem primitive_never_suits (unregistered : builtIn.lookup key = none)
    {entry : TypeDescriptor × Converter} (member : entry ∈ builtInTypes)
    (primitive : entry.1.isPrimitive = true)
    (undeclared : hierarchy.declaredParents entry.1.key = []) (steps : Nat) :
    ¬Suits hierarchy (.object key) entry steps := by
  have other : entry.1.key ≠ key := by
    rw [built_in_keys, List.lookup_eq_none_iff] at unregistered
    exact (bne_iff_ne.1 (unregistered _ (List.mem_map_of_mem member))).symm
  have single : entry.2.constructsSubtypes = false := by
    rcases mem_built_in_types member with ⟨held, rfl | rfl⟩ | rfl | rfl
    · exact Converter.primitive_converter_single held
    · exact Converter.primitive_converter_single held
    · rfl
    · cases primitive
  intro suits
  cases suits with
  | below near =>
      have far := TypeHierarchy.primitive_isolated primitive undeclared other
      cases far.symm.trans near
  | above _ subtypes => cases single.symm.trans subtypes

/-- The converter of an object type without one of its own. Where every type with a built-in
converter is as far from it as its bare key is, as from all types but the root, the supertypes of
numbers and of texts and what stands above these, it is the converter of the first type among the
nearest that suit, and there is none only if no type suits. A primitive type suits only if
supertypes are declared for it. -/
theorem lookup_by_assignability (hierarchy : TypeHierarchy) {key : TypeKey}
    (unregistered : builtIn.lookup key = none) :
    ((∀ upper ∈ [.object, .number, .characters], hierarchy.keyDistance upper key = none) →
      MeasuredAlike hierarchy key) ∧
    (MeasuredAlike hierarchy key → ∀ family service,
      (standard hierarchy).Recalls family service → family.Member (.object key) →
      (∀ converter, (service.lookup (.object key)).1 = .ok converter ↔ ∃ entry steps,
        FirstNearest (Suits hierarchy (.object key)) builtInTypes entry steps ∧
          entry.2 = converter) ∧
      ((service.lookup (.object key)).1 = .error (.noConverter key) ↔
        ∀ entry ∈ builtInTypes, ∀ steps, ¬Suits hierarchy (.object key) entry steps)) ∧
    ∀ entry ∈ builtInTypes, entry.1.isPrimitive = true →
      hierarchy.declaredParents entry.1.key = [] →
        ∀ steps, ¬Suits hierarchy (.object key) entry steps := by
  refine ⟨measured_alike, ?_, fun entry => primitive_never_suits unregistered⟩
  intro alike family service recalls member
  have same := suits_iff_serves alike
  have absent : (standard hierarchy).registered.lookup (TypeDescriptor.object key).key = none := by
    rw [standard_registered]
    exact unregistered
  obtain ⟨after, found, -⟩ := lookup_recalls recalls member
  have single : (TypeDescriptor.object key).isArray = false := rfl
  have failed : (standard hierarchy).find (.object key) = .error (.noConverter key) ↔ _ :=
    find_eq_no_converter_iff absent single
  rw [found]
  dsimp only
  constructor
  · intro converter
    rw [find_eq_ok_iff absent single, standard_registered, standard_hierarchy]
    simp only [first_nearest_map]
    constructor
    · rintro ⟨_, steps, ⟨entry, nearest, rfl⟩, rfl⟩
      have suits := nearest.imp fun other member count => (same other member count).symm
      exact ⟨entry, steps, suits, rfl⟩
    · rintro ⟨entry, steps, nearest, rfl⟩
      exact ⟨_, steps, ⟨entry, nearest.imp same, rfl⟩, rfl⟩
  · rw [standard_registered, standard_hierarchy, List.forall_mem_map] at failed
    refine failed.trans (forall₂_congr fun entry member => forall_congr' fun steps => ?_)
    rw [same entry member steps]

/-- Whole numbers and texts are equally near below labels; the converter of numbers was registered
first. -/
theorem labels_are_read_as_numbers :
    let hierarchy := TypeHierarchy.declaring
      [(.text, [⟨"Name"⟩]), (Primitive.int32.boxedKey, [⟨"Amount"⟩]), (⟨"Name"⟩, [⟨"Label"⟩]),
        (⟨"Amount"⟩, [⟨"Label"⟩])]
    let key : TypeKey := ⟨"Label"⟩
    let family := TypeFamily.ofArray (.object key) rfl
    let service := standard hierarchy
    builtIn.lookup key = none ∧
      (∀ upper ∈ [.object, .number, .characters], hierarchy.keyDistance upper key = none) ∧
      MeasuredAlike hierarchy key ∧ service.Recalls family service ∧
      family.Member (.object key) ∧
      ∃ converter, (service.lookup (.object key)).1 = .ok converter ∧
        converter.name = "NumberConverter" ∧ ∃ entry steps,
        FirstNearest (Suits hierarchy (.object key)) builtInTypes entry steps ∧
          entry.2 = converter := by
  intro hierarchy key family service
  have unregistered : builtIn.lookup key = none := by rfl
  have far : ∀ upper ∈ [.object, .number, .characters], hierarchy.keyDistance upper key = none := by
    decide +kernel
  obtain ⟨alike, found, -⟩ := lookup_by_assignability hierarchy unregistered
  have member : family.Member (.object key) := .inr rfl
  have recalls := recalls_self service family rfl
  have number : ((service.lookup (.object key)).1.map Converter.name).toOption =
      some "NumberConverter" := by decide +kernel
  obtain ⟨chosen, -⟩ := found (alike far) family service recalls member
  refine ⟨unregistered, far, alike far, recalls, member, ?_⟩
  cases looked : (service.lookup (.object key)).1 with
  | error error => rw [looked] at number; cases number
  | ok converter =>
      rw [looked] at number
      exact ⟨converter, rfl, Option.some_inj.1 number, (chosen converter).1 looked⟩

/-- Enumerations may be nearer above a type than all that is assignable to it; and what the shape of
texts implies is not seen by the search. -/
theorem nearest_not_assignable :
    (let hierarchy := TypeHierarchy.declaring
        [(⟨"A"⟩, [.enumeration]), (Primitive.bool.boxedKey, [⟨"Mark"⟩]), (⟨"Mark"⟩, [⟨"A"⟩])]
      let target := TypeDescriptor.object ⟨"A"⟩
      builtIn.lookup target.key = none ∧
        hierarchy.isAssignable (.boxed .bool) target.key = true ∧
        hierarchy.isAssignable (.object .enumeration) target.key = false ∧
        ((standard hierarchy).lookup target).1 = .ok .variant) ∧
      let target := TypeDescriptor.object .characters
      builtIn.lookup target.key = none ∧
        TypeHierarchy.standard.isAssignable .text target.key = true ∧
        ((standard .standard).lookup target).1 = .error (.noConverter target.key) := by
  exact ⟨⟨rfl, rfl, rfl, rfl⟩, rfl, rfl, rfl⟩

end ConversionService
end RequestDispatch
