import RequestDispatch.Proofs.Conversion.Integers
import RequestDispatch.Proofs.Conversion.Nested

/-!
Values that are converted to themselves. What the built-in converters have made of a text is written
as a text that they make the same value of, floating numbers apart: an integer is read within its
range again, a variant is found under its own name, and null stays null. So the result of a
conversion is settled, for arrays of every depth, too (`convert_settles`).
-/

namespace RequestDispatch

namespace TypeDescriptor

/-- Scalar types whose values are written exactly. The names of variants are not surrounded by
blanks. -/
inductive IsExact : TypeDescriptor → Prop
  | primitive {held : Primitive} : held.isFloating = false → IsExact (.primitive held)
  | boxed {held : Primitive} : held.isFloating = false → IsExact (.boxed held)
  | text : IsExact .text
  | enumeration {key : TypeKey} {variants : List String} : key.IsOwn →
      (∀ variant ∈ variants, Text.trim variant = variant) → IsExact (.enumeration key variants)

/-- Exact types, and arrays of those that are not primitive. -/
inductive IsSettled : TypeDescriptor → Prop
  | scalar {target : TypeDescriptor} : target.IsExact → IsSettled target
  | nested {innermost : TypeDescriptor} (depth : Nat) : innermost.IsExact →
      innermost.isPrimitive = false → IsSettled (innermost.nested depth)

theorem IsExact.scalar {target : TypeDescriptor} (exact : target.IsExact) : target.IsScalar := by
  cases exact with
  | primitive => exact .primitive _
  | boxed => exact .boxed _
  | text => exact .text
  | enumeration own => exact .enumeration _ own

end TypeDescriptor

namespace Converter

variable {target : TypeDescriptor} {primitive : Primitive} {boxed : Bool} {value : Value}

theorem flag_display (scalar : scalarTarget target = .ok (.bool, boxed)) (value : Bool)
    (serial : Nat) :
    flag.convert target serial (Value.bool value).display = .ok (.bool value) := by
  have written : (Text.trim (Value.bool value).display).isEmpty = false ∧
      parseFlag (Value.bool value).display = value := by
    cases value <;> exact ⟨by decide +kernel, by decide +kernel⟩
  rw [flag_convert scalar, written.1, written.2, Bool.and_false]
  rfl

theorem number_display (scalar : scalarTarget target = .ok (primitive, boxed))
    {least greatest : Int} {value : Int64} (range : primitive.range? = some (least, greatest))
    (lower : least ≤ value.toInt) (upper : value.toInt ≤ greatest) (serial : Nat) :
    number.convert target serial (Value.int value).display = .ok (.int value) := by
  rw [number_convert scalar, Value.display,
    (parse_integer_iff range).2 (integer_text_of_number lower upper)]
  rfl

/-- The converter of a primitive makes of the text of a value this value, unless it is a floating
number. -/
theorem primitive_converter_display (scalar : scalarTarget target = .ok (primitive, boxed))
    (discrete : primitive.isFloating = false) (holds : primitive.Holds value) (serial : Nat) :
    (ConversionService.primitiveConverter primitive).convert target serial value.display =
      .ok value := by
  cases holds with
  | bool value => exact flag_display scalar value serial
  | char value =>
      rw [ConversionService.primitiveConverter, character_convert scalar, Value.display,
        String.toList_ofList]
      rfl
  | @integer _ least greatest value range lower upper =>
      have numeric : ConversionService.primitiveConverter primitive = number := by
        cases primitive <;> cases range <;> rfl
      rw [numeric]
      exact number_display scalar range lower upper serial
  | single => cases discrete
  | double => cases discrete

theorem find_variant_self {variants : List String} {variant : String} (member : variant ∈ variants)
    (bare : Text.trim variant = variant) : findVariant? variants variant = some variant := by
  rw [findVariant?, bare]
  cases found : variants.find? (· == variant) with
  | none => simpa using List.find?_eq_none.1 found variant member
  | some other =>
      have same : other = variant := by simpa using List.find?_some found
      rw [same]
      rfl

end Converter

namespace ConversionService

variable {service : ConversionService} {family : TypeFamily}
  {target innermost : TypeDescriptor} {raw value : Value}

theorem find_display (exact : target.IsExact) :
    ∃ converter, (standard .standard).find target = .ok converter ∧
      ∀ value, target.HasValue value → leadText? value = some value.display ∧
        ∀ serial, converter.convert target serial value.display = .ok value := by
  have listed := standard_hasBuiltIn .standard
  have single {primitive : Primitive} {value : Value} (holds : primitive.Holds value) :
      leadText? value = some value.display := by
    cases holds <;> rfl
  cases exact with
  | @primitive held discrete =>
      refine ⟨primitiveConverter held, find_registered (by rw [listed, lookup_plain]) _, ?_⟩
      intro value holds
      exact ⟨single holds, Converter.primitive_converter_display rfl discrete holds⟩
  | @boxed held discrete =>
      refine ⟨primitiveConverter held, find_registered (by rw [listed, lookup_boxed]) _, ?_⟩
      intro value holds
      exact ⟨single holds, Converter.primitive_converter_display rfl discrete holds⟩
  | text =>
      refine ⟨.text, find_registered (by rw [listed, lookup_text]) _, ?_⟩
      rintro _ ⟨text, rfl⟩
      exact ⟨rfl, fun _ => rfl⟩
  | @enumeration key variants own bare =>
      refine ⟨.variant, find_enumeration own variants, ?_⟩
      rintro _ ⟨variant, member, rfl⟩
      refine ⟨rfl, ?_⟩
      intro serial
      simp only [Converter.variant, TypeDescriptor.enumeration, TypeDescriptor.kind,
        TypeDescriptor.key, Value.display, Converter.find_variant_self member (bare variant member)]
      rfl

theorem convert_null (scalar : target.IsScalar) (nullable : target.isPrimitive = false)
    (service : ConversionService) : service.convert target .null = (.ok .null, service) := by
  cases scalar with
  | primitive => cases nullable
  | _ => rfl

/-- A value that an exact type admits is converted to itself. -/
theorem convert_admitted (exact : target.IsExact)
    (recalls : (standard .standard).Recalls family service) (member : family.Member target)
    (admits : target.Admits value) :
    ∃ after, service.convert target value = (.ok value, after) ∧
      (standard .standard).Recalls family after := by
  rcases admits with has | ⟨nullable, rfl⟩
  · obtain ⟨converter, found, written⟩ := find_display exact
    obtain ⟨leads, converted⟩ := written value has
    obtain ⟨serial, after, made, recallsAfter⟩ :=
      convert_text_recalls recalls member found value.display
    refine ⟨after, ?_, recallsAfter⟩
    rw [convert_scalar_eq exact.scalar service leads, made, converted]
  · exact ⟨service, convert_null exact.scalar nullable service, recalls⟩

theorem convert_layered (exact : innermost.IsExact) (nullable : innermost.isPrimitive = false)
    {depth : Nat} (recalls : (standard .standard).Recalls family service)
    (member : family.Member (innermost.nested depth))
    (layered : value.Layered innermost.Admits depth) :
    ∃ after, service.convert (innermost.nested depth) value = (.ok value, after) ∧
      (standard .standard).Recalls family after := by
  induction depth generalizing service value with
  | zero => exact convert_admitted exact recalls member layered
  | succ depth ih =>
      obtain ⟨items, rfl, within⟩ := layered
      obtain ⟨converter, found, -⟩ := find_nested exact.scalar nullable (depth + 1)
      have each (service : ConversionService) (item : Value) (held : item ∈ items)
          (recalls : (standard .standard).Recalls family service) :
          ∃ value after, service.convert (innermost.nested depth) item = (.ok value, after) ∧
            item = value ∧ (standard .standard).Recalls family after := by
        obtain ⟨after, same, recallsAfter⟩ := ih recalls (family.element member) (within item held)
        exact ⟨item, after, same, rfl, recallsAfter⟩
      have sequence : (Value.array items).items? = some items := rfl
      obtain ⟨values, after, converted, inOrder, recallsAfter⟩ :=
        convert_array_each Eq recalls member ⟨converter, found⟩ sequence each
      obtain rfl : items = values := by rwa [List.forall₂_eq_eq_eq] at inOrder
      exact ⟨after, converted, recallsAfter⟩

/-- With the built-in converters every tree of texts is converted to a settled type, and what it
becomes is converted to itself from then on. -/
theorem convert_settles (settled : target.IsSettled)
    (recalls : (standard .standard).Recalls family service) (member : family.Member target)
    (tree : raw.IsTextTree) :
    ∃ value after, service.convert target raw = (.ok value, after) ∧
      (standard .standard).Recalls family after ∧
      ∀ later, (standard .standard).Recalls family later →
        (later.convert target value).1 = .ok value := by
  cases settled with
  | scalar exact =>
      obtain ⟨value, after, converted, ⟨text, -, renders⟩, recallsAfter⟩ :=
        convert_tree exact.scalar recalls member tree
      refine ⟨value, after, converted, recallsAfter, ?_⟩
      intro later recallsLater
      obtain ⟨last, same, -⟩ := convert_admitted exact recallsLater member
        (admits_of_renders exact.scalar renders)
      rw [same]
  | @nested innermost depth exact nullable =>
      obtain ⟨value, after, converted, reshapes, recallsAfter⟩ :=
        convert_nested exact.scalar nullable recalls member tree
      have layered := layered_of_reshapes exact.scalar reshapes
      refine ⟨value, after, converted, recallsAfter, ?_⟩
      intro later recallsLater
      obtain ⟨last, same, -⟩ := convert_layered exact nullable recallsLater member layered
      rw [same]

/-- Shades are found in another case, and by their own names afterwards; one is unknown. -/
theorem shades_settle :
    let innermost := TypeDescriptor.enumeration ⟨"Shade"⟩ ["light", "Light", "Dark"]
    let target := innermost.nested 2
    let family := TypeFamily.nesting innermost rfl
    let shade (variant : String) : Value := .enumeration ⟨"Shade"⟩ variant
    let raw : Value := .array [.array [.text " LIGHT ", .array [.text "Light"], .text "pale"],
      .text "dark"]
    let value : Value := .array [.array [shade "light", shade "Light", .null], .array [shade "Dark"]]
    target.IsSettled ∧ (standard .standard).Recalls family (standard .standard) ∧
      family.Member target ∧ raw.IsTextTree ∧
      ((standard .standard).convert target raw).1 = .ok value ∧
      (((standard .standard).convert target raw).2.convert target value).1 = .ok value := by
  intro innermost target family shade raw value
  have own : (⟨"Shade"⟩ : TypeKey).IsOwn := by
    refine ⟨by decide, by decide, ?_⟩
    decide +kernel
  have settled : target.IsSettled := .nested 2 (.enumeration own (by decide +kernel)) rfl
  have recalls := recalls_self (standard .standard) family rfl
  have member : family.Member target := ⟨2, rfl⟩
  have tree : raw.IsTextTree := by simp [raw]
  obtain ⟨made, after, converted, recallsAfter, again⟩ :=
    convert_settles settled recalls member tree
  have computed : ((standard .standard).convert target raw).1 = .ok value := by rfl
  obtain rfl : value = made := by
    rw [converted] at computed
    exact (Except.ok.inj computed).symm
  refine ⟨settled, recalls, member, tree, computed, ?_⟩
  rw [converted]
  exact again after recallsAfter

end ConversionService
end RequestDispatch
