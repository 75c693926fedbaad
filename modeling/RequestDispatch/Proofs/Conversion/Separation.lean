import RequestDispatch.Proofs.Conversion.Convertible
import RequestDispatch.Proofs.Conversion.Nearest

/-!
When a type with a built-in converter is convertible. Scalars always are. A type of another kind
may be found by the converter of a primitive that stands below it in the hierarchy, and that
converter accepts scalars only; where no primitive does, the converter that is found accepts it.
-/

namespace RequestDispatch
namespace Converter

theorem text_accepts (target : TypeDescriptor) : text.Accepts target :=
  fun _ raw => ⟨.text raw, rfl⟩

theorem variant_accepts (target : TypeDescriptor) : variant.Accepts target := by
  intro serial raw
  simp only [variant]
  split <;> exact ⟨_, rfl⟩

theorem primitive_converter_accepts {target : TypeDescriptor} {scalar : Primitive × Bool}
    (read : scalarTarget target = .ok scalar) (primitive : Primitive) :
    (ConversionService.primitiveConverter primitive).Accepts target := by
  intro serial raw
  cases primitive with
  | bool =>
      simp only [ConversionService.primitiveConverter, flag, read]
      exact ⟨_, (apply_ite Except.ok _ _ _).symm⟩
  | char => exact ⟨_, by simp only [ConversionService.primitiveConverter, character, read]; rfl⟩
  | _ => exact ⟨_, by simp only [ConversionService.primitiveConverter, number, read]; rfl⟩

theorem singleton_accepts {key : TypeKey} {element : TypeDescriptor} {inner : Converter}
    (accepts : inner.Accepts element) :
    (singleton element inner).Accepts (.describe key (.array element)) := by
  intro serial raw
  obtain ⟨value, converted⟩ := accepts serial raw
  refine ⟨.array [value], ?_⟩
  change (inner.convert element serial raw).map _ = _
  rw [converted]
  rfl

theorem primitive_converter_single (primitive : Primitive) :
    (ConversionService.primitiveConverter primitive).constructsSubtypes = false := by
  cases primitive <;> rfl

end Converter

/-- No scalar other than text leads to the key, neither by being named by it nor by standing below
it. -/
def TypeHierarchy.Apart (hierarchy : TypeHierarchy) (key : TypeKey) : Prop :=
  ∀ primitive : Primitive, hierarchy.keyDistance primitive.key key = none ∧
    hierarchy.keyDistance primitive.boxedKey key = none

/-- Types for which the built-in converters of other types are not found. -/
def TypeHierarchy.Separates (hierarchy : TypeHierarchy) : TypeDescriptor → Prop
  | .describe _ (.primitive _) => True
  | .describe _ (.boxed _) => True
  | .describe key (.array element) =>
    ConversionService.builtIn.lookup key = none ∧ ConversionService.isTarget element ∧
      hierarchy.Separates element
  | .describe key _ => hierarchy.Apart key

namespace ConversionService

variable {base service : ConversionService} {target : TypeDescriptor}

theorem registered_of_find {key : TypeKey} {kind : TypeKind} {converter : Converter}
    (single : ∀ element, kind ≠ .array element)
    (found : base.find (.describe key kind) = .ok converter) :
    ∃ entry ∈ base.registered, entry.2 = converter ∧
      ∃ steps, Serves base.hierarchy (.describe key kind) entry steps := by
  cases registered : base.registered.lookup key with
  | some own =>
      obtain rfl : own = converter := by
        rw [find_registered registered] at found
        exact Except.ok.inj found
      obtain ⟨before, after, entries, -⟩ := List.lookup_eq_some_iff.1 registered
      exact ⟨(key, own), by simp [entries], rfl, 0, .below (if_pos rfl)⟩
  | none =>
      have unregistered : base.registered.lookup (TypeDescriptor.describe key kind).key = none :=
        registered
      have noArray : (TypeDescriptor.describe key kind).isArray = false := by
        cases kind with
        | array element => exact absurd rfl (single element)
        | _ => rfl
      obtain ⟨entry, steps, nearest, own⟩ := (find_eq_ok_iff unregistered noArray).1 found
      exact ⟨entry, nearest.mem.1, own, steps, nearest.mem.2⟩

theorem built_in_entry {entry : TypeKey × Converter} (member : entry ∈ builtIn) :
    (∃ primitive : Primitive, (entry.1 = primitive.key ∨ entry.1 = primitive.boxedKey) ∧
      entry.2 = primitiveConverter primitive) ∨ entry.2 = .text ∨ entry.2 = .variant := by
  simp only [builtIn, List.mem_append, List.mem_flatMap, List.mem_cons, List.not_mem_nil,
    or_false] at member
  rcases member with ⟨primitive, -, rfl | rfl⟩ | rfl | rfl
  · exact .inl ⟨primitive, .inl rfl, rfl⟩
  · exact .inl ⟨primitive, .inr rfl, rfl⟩
  · exact .inr (.inl rfl)
  · exact .inr (.inr rfl)

/-- What is found for a type apart from the primitives is the converter of texts or of variants. -/
theorem find_apart (standard : base.HasBuiltIn) {key : TypeKey} {kind : TypeKind}
    {converter : Converter} (single : ∀ element, kind ≠ .array element)
    (apart : base.hierarchy.Apart key) (found : base.find (.describe key kind) = .ok converter) :
    converter = .text ∨ converter = .variant := by
  obtain ⟨entry, member, rfl, steps, serves⟩ := registered_of_find single found
  rw [standard] at member
  rcases built_in_entry member with ⟨primitive, named, own⟩ | other
  · have far : base.hierarchy.keyDistance entry.1 key = none := by
      rcases named with named | named <;> rw [named]
      · exact (apart primitive).1
      · exact (apart primitive).2
    cases serves with
    | below near => cases far.symm.trans near
    | above _ subtypes =>
        rw [own, Converter.primitive_converter_single] at subtypes
        cases subtypes
  · exact other

theorem accepts_of_find (standard : base.HasBuiltIn) {key : TypeKey} {kind : TypeKind}
    {converter : Converter} (simple : isTarget (.describe key kind))
    (single : ∀ element, kind ≠ .array element)
    (separate : base.hierarchy.Separates (.describe key kind))
    (found : base.find (.describe key kind) = .ok converter) :
    converter.Accepts (.describe key kind) := by
  have scalar {read : Primitive × Bool}
      (target : Converter.scalarTarget (.describe key kind) = .ok read) :
      converter.Accepts (.describe key kind) := by
    obtain ⟨entry, member, rfl, -⟩ := registered_of_find single found
    rw [standard] at member
    rcases built_in_entry member with ⟨primitive, -, own⟩ | own | own <;> rw [own]
    · exact Converter.primitive_converter_accepts target primitive
    · exact Converter.text_accepts _
    · exact Converter.variant_accepts _
  have other (apart : base.hierarchy.Apart key) : converter.Accepts (.describe key kind) := by
    rcases find_apart standard single apart found with rfl | rfl
    · exact Converter.text_accepts _
    · exact Converter.variant_accepts _
  cases kind with
  | primitive => exact scalar rfl
  | boxed => exact scalar rfl
  | array element => exact absurd rfl (single element)
  | collection => cases simple
  | map => cases simple
  | text => exact other separate
  | enumeration => exact other separate
  | object => exact other separate

theorem convertible_of_finds (standard : base.HasBuiltIn) :
    ∀ {target : TypeDescriptor}, isTarget target → base.hierarchy.Separates target →
      base.Finds target → base.Convertible target
  | .describe key kind, simple, separate, ⟨converter, found⟩ => by
      cases kind with
      | array element =>
          obtain ⟨unnamed, simple, separate⟩ := separate
          have absent : base.registered.lookup key = none := by
            rw [standard]
            exact unnamed
          have whole := found
          rw [find_array absent] at whole
          split at whole
          · cases whole
          · obtain ⟨inner, innerFound, rfl⟩ := map_eq_ok.1 whole
            have convertible := convertible_of_finds standard simple separate ⟨inner, innerFound⟩
            obtain ⟨other, otherFound, accepts⟩ := convertible.converts
            rw [innerFound] at otherFound
            cases otherFound
            exact .array ⟨_, found, Converter.singleton_accepts accepts⟩ convertible
      | _ =>
          refine .single simple rfl ⟨converter, found, ?_⟩
          exact accepts_of_find standard simple (by simp) separate found

end ConversionService
end RequestDispatch
