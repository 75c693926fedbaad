import RequestDispatch.Proofs.Conversion.Separation
import RequestDispatch.Proofs.Type.Implied

/-!
Scalar types among the built-in converters and under the hierarchy that every program starts with.
Nothing stands above a key there but the root, so no converter of another type comes near an
enumeration under a key of its own, and the converter of a scalar type makes of every text a value
of the type, or null where the type is not primitive (`find_scalar`).
-/

namespace RequestDispatch

/-- The key is neither the root nor the key of a scalar type with a converter of its own. -/
def TypeKey.IsOwn (key : TypeKey) : Prop :=
  key ≠ .object ∧ key ≠ .text ∧
    ∀ primitive ∈ Primitive.all, key ≠ primitive.key ∧ key ≠ primitive.boxedKey

namespace TypeDescriptor

inductive IsScalar : TypeDescriptor → Prop
  | primitive (held : Primitive) : IsScalar (.primitive held)
  | boxed (held : Primitive) : IsScalar (.boxed held)
  | text : IsScalar .text
  | enumeration {key : TypeKey} (variants : List String) :
      key.IsOwn → IsScalar (.enumeration key variants)

def HasValue : TypeDescriptor → Value → Prop
  | .describe _ (.primitive held), value => held.Holds value
  | .describe _ (.boxed held), value => held.Holds value
  | .describe _ .text, value => ∃ text, value = .text text
  | .describe key (.enumeration variants), value =>
    ∃ variant ∈ variants, value = .enumeration key variant
  | _, _ => False

/-- A value of the type, or null where the type is not primitive. -/
def Admits (type : TypeDescriptor) (value : Value) : Prop :=
  type.HasValue value ∨ type.isPrimitive = false ∧ value = .null

end TypeDescriptor

namespace TypeHierarchy

theorem climbs_standard {key upper : TypeKey} {steps : Nat}
    (climbs : standard.Climbs (standard.parentsOfKey key) steps upper) : upper = .object := by
  have top {key upper : TypeKey} (edge : upper ∈ standard.parentsOfKey key) : upper = .object := by
    rcases mem_parentsOfKey.1 edge with declared | ⟨-, -, root⟩
    · exact standard_above declared
    · exact root
  cases climbs with
  | first started => exact top started
  | further _ edge => exact top edge

theorem keyDistance_standard {key target : TypeKey} (other : key ≠ target)
    (notRoot : target ≠ .object) : standard.keyDistance key target = none := by
  rw [keyDistance, if_neg other, lookup_walk_eq_none]
  intro steps climbs
  exact notRoot (climbs_standard climbs)

theorem enumeration_assignable (hierarchy : TypeHierarchy) (key : TypeKey)
    (variants : List String) :
    ∃ steps, hierarchy.distance (.enumeration key variants) .enumeration = some steps := by
  rw [distance]
  split
  · exact ⟨0, rfl⟩
  · have above : .enumeration ∈ hierarchy.parentsOf (.enumeration key variants) :=
      known_above (.inr (List.mem_singleton.2 rfl))
    obtain ⟨steps, nearest⟩ := (Climbs.first above).nearest
    exact ⟨steps, lookup_walk_eq_some.2 nearest⟩

end TypeHierarchy

namespace Converter

theorem variant_of_find {variants : List String} {raw variant : String}
    (found : findVariant? variants raw = some variant) : variant ∈ variants := by
  rcases Option.or_eq_some_iff.1 found with same | ⟨-, alike⟩
  · exact List.mem_of_find?_eq_some same
  · exact List.mem_of_find?_eq_some alike

theorem gives_admits {primitive : Primitive} {value : Value} (gives : Gives primitive true value) :
    (TypeDescriptor.boxed primitive).Admits value := by
  rcases gives with holds | ⟨-, null⟩
  · exact .inl holds
  · exact .inr ⟨rfl, null⟩

end Converter

namespace ConversionService

def plainEntries : List (TypeKey × Converter) :=
  (Primitive.all.flatMap fun primitive =>
    [(primitive.key, primitiveConverter primitive),
      (primitive.boxedKey, primitiveConverter primitive)]) ++ [(.text, .text)]

theorem built_in_split : builtIn = plainEntries ++ [(.enumeration, .variant)] := rfl

theorem plain_entry_far {key : TypeKey} (own : key.IsOwn) (variants : List String) :
    ∀ entry ∈ plainEntries, entry.1 ≠ key ∧ ∀ steps,
      ¬Serves (standard .standard).hierarchy (.enumeration key variants) entry steps := by
  intro entry member
  obtain ⟨notRoot, notText, notPrimitive⟩ := own
  have apart : entry.1 ≠ key ∧ entry.2.constructsSubtypes = false := by
    simp only [plainEntries, List.mem_append, List.mem_flatMap, List.mem_cons, List.not_mem_nil,
      or_false] at member
    rcases member with ⟨primitive, listed, rfl | rfl⟩ | rfl
    · exact ⟨(notPrimitive primitive listed).1.symm,
        Converter.primitive_converter_single primitive⟩
    · exact ⟨(notPrimitive primitive listed).2.symm,
        Converter.primitive_converter_single primitive⟩
    · exact ⟨notText.symm, rfl⟩
  refine ⟨apart.1, ?_⟩
  have far : (standard .standard).hierarchy.keyDistance entry.1 key = none :=
    TypeHierarchy.keyDistance_standard apart.1 notRoot
  intro steps serves
  cases serves with
  | below near => cases far.symm.trans near
  | above _ subtypes => cases apart.2.symm.trans subtypes

theorem find_enumeration {key : TypeKey} (own : key.IsOwn) (variants : List String) :
    (standard .standard).find (.enumeration key variants) = .ok .variant := by
  have listed : (standard .standard).registered = plainEntries ++ [(.enumeration, .variant)] :=
    (standard_hasBuiltIn .standard).trans built_in_split
  have far := plain_entry_far own variants
  by_cases itself : key = .enumeration
  · rw [itself]
    exact find_registered (by rw [listed]; rfl) _
  · have absent : (standard .standard).registered.lookup
        (TypeDescriptor.enumeration key variants).key = none := by
      rw [listed, List.lookup_eq_none_iff]
      intro entry member
      rcases List.mem_append.1 member with plain | last
      · exact bne_iff_ne.2 (far entry plain).1.symm
      · rw [List.mem_singleton.1 last]
        exact bne_iff_ne.2 itself
    obtain ⟨steps, assignable⟩ := TypeHierarchy.enumeration_assignable .standard key variants
    have below : (standard .standard).hierarchy.keyDistance .enumeration key = none :=
      TypeHierarchy.keyDistance_standard (Ne.symm itself) own.1
    have serves : Serves (standard .standard).hierarchy (.enumeration key variants)
        (.enumeration, .variant) steps := .above below rfl assignable
    rw [find_eq_ok_iff absent rfl, listed]
    refine ⟨_, steps, ⟨plainEntries, [], rfl, serves, ?_, by simp⟩, rfl⟩
    intro earlier member other near
    exact absurd near ((far earlier member).2 other)

/-- The converter of a scalar type makes of every text a value that the type admits, whatever
number the next object has. -/
theorem find_scalar {target : TypeDescriptor} (scalar : target.IsScalar) :
    ∃ converter, (standard .standard).find target = .ok converter ∧ ∀ raw, ∃ value,
      (∀ serial, converter.convert target serial raw = .ok value) ∧ target.Admits value := by
  have listed := standard_hasBuiltIn .standard
  cases scalar with
  | primitive held =>
      have plain : Converter.scalarTarget (.primitive held) = .ok (held, false) := rfl
      refine ⟨primitiveConverter held, find_registered (by rw [listed, lookup_plain]) _, ?_⟩
      intro raw
      obtain ⟨value, converted, holds | ⟨boxed, -⟩⟩ :=
        Converter.primitive_converter_gives plain raw
      · exact ⟨value, converted, .inl holds⟩
      · cases boxed
  | boxed held =>
      have boxed : Converter.scalarTarget (.boxed held) = .ok (held, true) := rfl
      refine ⟨primitiveConverter held, find_registered (by rw [listed, lookup_boxed]) _, ?_⟩
      intro raw
      obtain ⟨value, converted, gives⟩ := Converter.primitive_converter_gives boxed raw
      exact ⟨value, converted, Converter.gives_admits gives⟩
  | text =>
      refine ⟨.text, find_registered (by rw [listed, lookup_text]) _, ?_⟩
      intro raw
      exact ⟨.text raw, fun _ => rfl, .inl ⟨raw, rfl⟩⟩
  | @enumeration key variants own =>
      refine ⟨.variant, find_enumeration own variants, ?_⟩
      intro raw
      refine ⟨_, fun _ => rfl, ?_⟩
      cases found : Converter.findVariant? variants raw with
      | none => exact .inr ⟨rfl, rfl⟩
      | some variant => exact .inl ⟨variant, Converter.variant_of_find found, rfl⟩

end ConversionService
end RequestDispatch
