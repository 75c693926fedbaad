import RequestDispatch.Proofs.Conversion.BuiltIn

/-!
What a conversion service remembers. Converters are remembered by the keys of types only, so two
types under one key would share what was found for the first of them. Among types that their keys
tell apart a look-up finds what it would find if nothing were remembered.
-/

namespace RequestDispatch

/-- Types of which no two have the same key, with the types of their elements. -/
structure TypeFamily where
  Member : TypeDescriptor → Prop
  distinct : ∀ {first second}, Member first → Member second → first.key = second.key →
    first = second
  element : ∀ {key element}, Member (.describe key (.array element)) → Member element

theorem TypeDescriptor.array_key_ne (element : TypeDescriptor) :
    (TypeDescriptor.arrayOf element).key ≠ element.key := by
  intro same
  have lengths := congrArg (fun key : TypeKey => key.name.length) same
  obtain ⟨key, kind⟩ := element
  simp only [arrayOf, TypeDescriptor.key, String.length_append] at lengths
  have bracket : "[".length = 1 := rfl
  omega

def TypeFamily.ofArray (element : TypeDescriptor) (single : element.isArray = false) :
    TypeFamily where
  Member type := type = .arrayOf element ∨ type = element
  distinct := by
    have apart := TypeDescriptor.array_key_ne element
    rintro _ _ (rfl | rfl) (rfl | rfl) same
    · rfl
    · exact absurd same apart
    · exact absurd same.symm apart
    · rfl
  element := by
    rintro key inner (same | rfl)
    · cases same
      exact .inr rfl
    · cases single

namespace ConversionService

/-- The service converts with what is registered at the base, and what it remembers for a key is
what the base finds for the type of that key. -/
structure Recalls (base : ConversionService) (family : TypeFamily) (service : ConversionService) :
    Prop where
  registered : service.registered = base.registered
  hierarchy : service.hierarchy = base.hierarchy
  remembered : ∀ entry ∈ service.cache, ∃ target, family.Member target ∧ target.key = entry.1 ∧
    base.find target = .ok entry.2

theorem recalls_self (base : ConversionService) (family : TypeFamily) (fresh : base.cache = []) :
    base.Recalls family base := by
  refine ⟨rfl, rfl, ?_⟩
  intro entry member
  rw [fresh] at member
  cases member

variable {base service : ConversionService} {family : TypeFamily}

theorem Recalls.cached (recalls : base.Recalls family service) {target : TypeDescriptor}
    (member : family.Member target) {converter : Converter}
    (known : service.cache.lookup target.key = some converter) :
    base.find target = .ok converter := by
  obtain ⟨before, after, split, -⟩ := List.lookup_eq_some_iff.1 known
  have held : (target.key, converter) ∈ service.cache := by simp [split]
  obtain ⟨other, otherMember, same, found⟩ := recalls.remembered _ held
  rw [family.distinct otherMember member same] at found
  exact found

theorem Recalls.closest (recalls : base.Recalls family service) (target : TypeDescriptor) :
    service.closest? target = base.closest? target := by
  have nearer : service.nearer target = base.nearer target := by
    funext best entry
    simp only [nearer, converterDistance, recalls.hierarchy]
  rw [closest?, closest?, nearer, recalls.registered]

theorem find_registered {key : TypeKey} {converter : Converter}
    (registered : base.registered.lookup key = some converter) (kind : TypeKind) :
    base.find (.describe key kind) = .ok converter := by
  unfold find
  rw [registered]

theorem find_array {key : TypeKey} (absent : base.registered.lookup key = none)
    (element : TypeDescriptor) :
    base.find (.describe key (.array element)) =
      if element.isPrimitive then .error (.primitiveArray element.key)
      else (base.find element).map (Converter.singleton element) := by
  rw [find, absent]

theorem find_closest {key : TypeKey} {kind : TypeKind}
    (absent : base.registered.lookup key = none) (single : ∀ element, kind ≠ .array element) :
    base.find (.describe key kind) =
      match base.closest? (.describe key kind) with
      | some converter => .ok converter
      | none => .error (.noConverter key) := by
  unfold find
  rw [absent]
  cases kind with
  | array element => exact absurd rfl (single element)
  | _ => rfl

theorem remember_recalls (recalls : base.Recalls family service) {target : TypeDescriptor}
    (member : family.Member target) {converter : Converter}
    (found : base.find target = .ok converter) :
    ∃ after, service.remember target.key converter = (converter, after) ∧
      base.Recalls family after := by
  rw [remember]
  cases known : service.cache.lookup target.key with
  | some other =>
      have same := recalls.cached member known
      rw [found] at same
      cases same
      exact ⟨service, rfl, recalls⟩
  | none =>
      refine ⟨_, rfl, recalls.registered, recalls.hierarchy, ?_⟩
      intro entry held
      rcases List.mem_append.1 held with old | new
      · exact recalls.remembered entry old
      · rw [List.mem_singleton.1 new]
        exact ⟨target, member, rfl, found⟩

/-- A look-up finds what is found without a look at what is remembered. -/
theorem lookup_recalls (recalls : base.Recalls family service) {target : TypeDescriptor}
    (member : family.Member target) :
    ∃ after, service.lookup target = (base.find target, after) ∧ base.Recalls family after := by
  have absent {key : TypeKey} (unknown : service.registered.lookup key = none) :
      base.registered.lookup key = none := by
    rw [← recalls.registered]
    exact unknown
  -- Along the recursion of the look-up. Where a converter is remembered under the key, only the
  -- family tells that it was found for this very type.
  fun_induction lookup service target with
  | case1 key kind converter registered =>
      rw [recalls.registered] at registered
      exact ⟨service, by rw [find_registered registered], recalls⟩
  | case2 key kind _ converter known =>
      exact ⟨service, by rw [recalls.cached member known], recalls⟩
  | case3 key unknown _ element primitive =>
      exact ⟨service, by rw [find_array (absent unknown), if_pos primitive], recalls⟩
  | case4 key unknown _ element primitive error after failed ih =>
      obtain ⟨last, found, kept⟩ := ih (family.element member)
      obtain ⟨result, rfl⟩ := Prod.mk.inj (failed.symm.trans found)
      refine ⟨after, ?_, kept⟩
      rw [find_array (absent unknown), if_neg primitive, ← result]
      rfl
  | case5 key unknown _ element primitive inner middle made converter after kept ih =>
      obtain ⟨last, found, recallsMiddle⟩ := ih (family.element member)
      obtain ⟨result, rfl⟩ := Prod.mk.inj (made.symm.trans found)
      have whole : base.find (.describe key (.array element)) =
          .ok (Converter.singleton element inner) := by
        rw [find_array (absent unknown), if_neg primitive, ← result]
        rfl
      obtain ⟨last, same, recallsLast⟩ := remember_recalls recallsMiddle member whole
      obtain ⟨rfl, rfl⟩ := Prod.mk.inj (kept.symm.trans same)
      exact ⟨after, by rw [whole], recallsLast⟩
  | case6 key unknown _ kind single none =>
      rw [recalls.closest] at none
      exact ⟨service, by rw [find_closest (absent unknown) single, none], recalls⟩
  | case7 key unknown _ kind single found closest converter after kept =>
      rw [recalls.closest] at closest
      have whole : base.find (.describe key kind) = .ok found := by
        rw [find_closest (absent unknown) single, closest]
      obtain ⟨last, same, recallsLast⟩ := remember_recalls recalls member whole
      obtain ⟨rfl, rfl⟩ := Prod.mk.inj (kept.symm.trans same)
      exact ⟨after, by rw [whole], recallsLast⟩

end ConversionService
end RequestDispatch
