import RequestDispatch.Proofs.Conversion.Kept
import RequestDispatch.Proofs.Value.Reading

/-!
Conversion with the built-in converters. Nothing that a service is asked changes what is registered
with it, and with the built-in converters every text becomes a value that the scalar type it was
converted for reads.
-/

namespace RequestDispatch

namespace ConversionService

/-- The service has the built-in converters and no others. -/
def HasBuiltIn (service : ConversionService) : Prop := service.registered = builtIn

theorem replace_entry_absent {α : Type} {key : TypeKey} {value : α} {entries : List (TypeKey × α)}
    (absent : key ∉ entries.map Prod.fst) :
    replaceEntry key value entries = entries ++ [(key, value)] := by
  induction entries with
  | nil => rfl
  | cons entry entries ih =>
      simp only [List.map_cons, List.mem_cons, not_or] at absent
      rw [replaceEntry, if_neg (Ne.symm absent.1), ih absent.2, List.cons_append]

theorem fold_register {entries : List (TypeKey × Converter)} {service : ConversionService}
    (distinct : ((service.registered ++ entries).map Prod.fst).Nodup) :
    (entries.foldl (fun service entry => service.register entry.1 entry.2) service).registered =
      service.registered ++ entries := by
  induction entries generalizing service with
  | nil => simp
  | cons entry entries ih =>
      have absent : entry.1 ∉ service.registered.map Prod.fst := by
        rw [List.map_append, List.nodup_append] at distinct
        intro member
        exact distinct.2.2 entry.1 member entry.1 (by simp) rfl
      have registered : (service.register entry.1 entry.2).registered =
          service.registered ++ [entry] := replace_entry_absent absent
      rw [List.foldl_cons, ih, registered, List.append_assoc, List.singleton_append]
      rw [registered, List.append_assoc, List.singleton_append]
      exact distinct

theorem standard_hasBuiltIn (hierarchy : TypeHierarchy) : (standard hierarchy).HasBuiltIn := by
  have distinct : (builtIn.map Prod.fst).Nodup := by decide +kernel
  exact fold_register distinct

theorem remember_registered (service : ConversionService) (key : TypeKey) (converter : Converter) :
    (service.remember key converter).2.registered = service.registered := by
  unfold remember
  split <;> rfl

theorem lookup_registered (service : ConversionService) (target : TypeDescriptor) :
    (service.lookup target).2.registered = service.registered := by
  fun_induction lookup service target with
  | case1 => rfl
  | case2 => rfl
  | case3 => rfl
  | case4 _ _ _ _ _ _ _ found ih => rw [← ih, found]
  | case5 key _ _ element _ inner middle found converter after kept ih =>
      have step := remember_registered middle key (.singleton element inner)
      rw [kept] at step
      rw [← ih, found]
      exact step
  | case6 => rfl
  | case7 key _ _ _ _ found _ converter after kept =>
      have step := remember_registered service key found
      rw [kept] at step
      exact step

theorem convert_items_registered
    {convertItem : ConversionService → Value → Except ConvertError Value × ConversionService}
    (each : ∀ service item, (convertItem service item).2.registered = service.registered)
    (service : ConversionService) (items : List Value) :
    (convertItems convertItem service items).2.registered = service.registered :=
  convert_items_keeps (fun after => after.registered = service.registered)
    (fun after item same => (each after item).trans same) rfl items

theorem convert_registered (service : ConversionService) (target : TypeDescriptor) (raw : Value) :
    (service.convert target raw).2.registered = service.registered :=
  convert_keeps (fun after => after.registered = service.registered) (fun _ _ same => same)
    (fun after part _ same => (lookup_registered after part).trans same) rfl raw

theorem lookup_plain (primitive : Primitive) :
    builtIn.lookup primitive.key = some (primitiveConverter primitive) := by
  cases primitive <;> rfl

theorem lookup_boxed (primitive : Primitive) :
    builtIn.lookup primitive.boxedKey = some (primitiveConverter primitive) := by
  cases primitive <;> rfl

theorem lookup_text : builtIn.lookup .text = some .text := by
  rfl

end ConversionService

namespace Converter

open NativeType

theorem parse_integer {primitive : Primitive} {least greatest : Int}
    (range : primitive.range? = some (least, greatest)) (text : List Char) :
    parseNumber? primitive text =
      (Integer.readWithin? least (min greatest greatestInteger) text).map fun value =>
        .int (Int64.ofInt value) := by
  cases primitive <;> cases range <;> rfl

theorem least_wide {primitive : Primitive} {least greatest : Int}
    (range : primitive.range? = some (least, greatest)) : -0x8000000000000000 ≤ least := by
  cases primitive <;> cases range <;> decide

theorem parse_number_holds {primitive : Primitive} {text : List Char} {value : Value}
    (parsed : parseNumber? primitive text = some value) : primitive.Holds value := by
  cases range : primitive.range? with
  | none =>
      cases primitive with
      | single =>
          obtain ⟨number, -, rfl⟩ := Option.map_eq_some_iff.1 parsed
          exact .single number
      | double =>
          obtain ⟨number, -, rfl⟩ := Option.map_eq_some_iff.1 parsed
          exact .double number
      | bool => cases parsed
      | char => cases parsed
      | _ => cases range
  | some bounds =>
      obtain ⟨least, greatest⟩ := bounds
      have wide := least_wide range
      rw [parse_integer range] at parsed
      obtain ⟨number, found, rfl⟩ := Option.map_eq_some_iff.1 parsed
      simp only [Integer.readWithin?, Option.filter_eq_some_iff, Bool.and_eq_true,
        decide_eq_true_eq, le_min_iff] at found
      obtain ⟨-, lower, upper, narrow⟩ := found
      rw [greatestInteger] at narrow
      have same : (Int64.ofInt number).toInt = number :=
        Int64.toInt_ofInt_of_le (by omega) (by omega)
      exact .integer range (by omega) (by omega)

/-- A value of the primitive, or null where it may be absent. -/
def Gives (primitive : Primitive) (boxed : Bool) (value : Value) : Prop :=
  primitive.Holds value ∨ boxed = true ∧ value = .null

theorem fallback_gives (primitive : Primitive) (boxed : Bool) :
    Gives primitive boxed (fallback primitive boxed) := by
  cases boxed with
  | false => exact .inl (holds_zero primitive)
  | true => exact .inr ⟨rfl, rfl⟩

def held (primitive : Primitive) (boxed : Bool) : NativeType :=
  if boxed then .optional (.scalar primitive) else .scalar primitive

theorem held_reads {primitive : Primitive} {boxed : Bool} {value : Value}
    (gives : Gives primitive boxed value) : Reads (held primitive boxed) value := by
  rcases gives with holds | ⟨rfl, rfl⟩
  · cases boxed with
    | false => exact reads_of_holds holds
    | true => exact reads_optional (reads_of_holds holds)
  · exact reads_null _

section

variable {target : TypeDescriptor} {primitive : Primitive} {boxed : Bool}

theorem number_convert (scalar : scalarTarget target = .ok (primitive, boxed)) (serial : Nat)
    (raw : String) :
    number.convert target serial raw =
      .ok ((parseNumber? primitive (Text.trimBoth Text.isBlank raw.toList)).getD
        (fallback primitive boxed)) := by
  simp only [number, scalar]
  rfl

theorem number_gives (scalar : scalarTarget target = .ok (primitive, boxed)) (raw : String) :
    ∃ value, (∀ serial, number.convert target serial raw = .ok value) ∧
      Gives primitive boxed value := by
  refine ⟨_, fun serial => number_convert scalar serial raw, ?_⟩
  cases parsed : parseNumber? primitive (Text.trimBoth Text.isBlank raw.toList) with
  | none => exact fallback_gives primitive boxed
  | some value => exact .inl (parse_number_holds parsed)

theorem flag_convert (scalar : scalarTarget target = .ok (primitive, boxed)) (serial : Nat)
    (raw : String) :
    flag.convert target serial raw =
      .ok (if boxed && (Text.trim raw).isEmpty then fallback primitive boxed
        else .bool (parseFlag raw)) := by
  simp only [flag, scalar]
  exact (apply_ite Except.ok _ _ _).symm

theorem flag_gives (scalar : scalarTarget target = .ok (.bool, boxed)) (raw : String) :
    ∃ value, (∀ serial, flag.convert target serial raw = .ok value) ∧ Gives .bool boxed value := by
  refine ⟨_, fun serial => flag_convert scalar serial raw, ?_⟩
  split
  · exact fallback_gives .bool boxed
  · exact .inl (.bool _)

theorem character_convert (scalar : scalarTarget target = .ok (primitive, boxed)) (serial : Nat)
    (raw : String) :
    character.convert target serial raw =
      .ok ((raw.toList.head?.map Value.char).getD (fallback primitive boxed)) := by
  simp only [character, scalar]
  rfl

theorem character_gives (scalar : scalarTarget target = .ok (.char, boxed)) (raw : String) :
    ∃ value, (∀ serial, character.convert target serial raw = .ok value) ∧
      Gives .char boxed value := by
  refine ⟨_, fun serial => character_convert scalar serial raw, ?_⟩
  cases raw.toList.head? with
  | none => exact fallback_gives .char boxed
  | some first => exact .inl (.char first)

/-- The converter of a primitive gives a value of it for every text, or null. -/
theorem primitive_converter_gives (scalar : scalarTarget target = .ok (primitive, boxed))
    (raw : String) :
    ∃ value, (∀ serial, (ConversionService.primitiveConverter primitive).convert target serial raw =
      .ok value) ∧ Gives primitive boxed value := by
  cases primitive with
  | bool => exact flag_gives scalar raw
  | char => exact character_gives scalar raw
  | _ => exact number_gives scalar raw

theorem primitive_converter_reads (scalar : scalarTarget target = .ok (primitive, boxed))
    (serial : Nat) (raw : String) :
    ∃ value, (ConversionService.primitiveConverter primitive).convert target serial raw =
        .ok value ∧ Reads (held primitive boxed) value := by
  obtain ⟨value, converted, gives⟩ := primitive_converter_gives scalar raw
  exact ⟨value, converted serial, held_reads gives⟩

end

end Converter

namespace ConversionService

open NativeType

variable {service : ConversionService}

theorem lookup_of_registered {key : TypeKey} {converter : Converter}
    (found : service.registered.lookup key = some converter) (kind : TypeKind) :
    service.lookup (.describe key kind) = (.ok converter, service) := by
  unfold lookup
  rw [found]

theorem convert_text_of_registered {key : TypeKey} {kind : TypeKind} {converter : Converter}
    (found : service.registered.lookup key = some converter)
    (scalar : ∀ raw, service.convert (.describe key kind) (.text raw) =
      service.convertText (.describe key kind) raw) (raw : String) :
    (service.convert (.describe key kind) (.text raw)).1 =
      converter.convert (.describe key kind) service.nextSerial raw := by
  rw [scalar, convertText, lookup_of_registered found]
  rfl

/-- Every text is converted to a value that the scalar type reads. -/
theorem convert_text_reads (standard : service.HasBuiltIn) {type : NativeType}
    (scalar : type.IsScalar) {target : TypeDescriptor} (described : type.descriptor? = some target)
    (raw : String) :
    ∃ value, (service.convert target (.text raw)).1 = .ok value ∧ type.Reads value := by
  cases scalar with
  | plain primitive =>
      cases described
      have plain : Converter.scalarTarget (.primitive primitive) = .ok (primitive, false) := rfl
      rw [TypeDescriptor.primitive, convert_text_of_registered
        (by rw [standard, lookup_plain]) (fun _ => rfl)]
      exact Converter.primitive_converter_reads plain service.nextSerial raw
  | optional primitive =>
      cases described
      have boxed : Converter.scalarTarget (.boxed primitive) = .ok (primitive, true) := rfl
      rw [TypeDescriptor.boxed, convert_text_of_registered
        (by rw [standard, lookup_boxed]) (fun _ => rfl)]
      exact Converter.primitive_converter_reads boxed service.nextSerial raw
  | text =>
      cases described
      rw [TypeDescriptor.text, convert_text_of_registered
        (by rw [standard, lookup_text]) (fun _ => rfl)]
      exact ⟨_, rfl, reads_text raw⟩
  | optionalText =>
      cases described
      rw [TypeDescriptor.text, convert_text_of_registered
        (by rw [standard, lookup_text]) (fun _ => rfl)]
      exact ⟨_, rfl, reads_optional (reads_text raw)⟩

/-- Null stands for a missing value; text that is not optional is the one scalar that does not
read it. -/
theorem convert_null_reads (service : ConversionService) {type : NativeType}
    (scalar : type.IsScalar) {target : TypeDescriptor}
    (described : type.descriptor? = some target) :
    ∃ value, (service.convert target .null).1 = .ok value ∧
      (type.Reads value ∨ type = .text ∧ value = .null) := by
  cases scalar with
  | plain primitive =>
      cases described
      exact ⟨.zero primitive, rfl, .inl (reads_zero primitive)⟩
  | optional primitive =>
      cases described
      exact ⟨.null, rfl, .inl (reads_null _)⟩
  | text =>
      cases described
      exact ⟨.null, rfl, .inr ⟨rfl, rfl⟩⟩
  | optionalText =>
      cases described
      exact ⟨.null, rfl, .inl (reads_null _)⟩

theorem convert_texts_read (standard : service.HasBuiltIn) {type : NativeType}
    (scalar : type.IsScalar) {target : TypeDescriptor} (described : type.descriptor? = some target)
    (texts : List String) :
    ∃ values, (convertItems (fun service item => service.convert target item) service
        (texts.map .text)).1 = .ok values ∧ ∀ value ∈ values, type.Reads value := by
  induction texts generalizing service with
  | nil => exact ⟨[], rfl, by simp⟩
  | cons text texts ih =>
      obtain ⟨value, converted, reads⟩ := convert_text_reads standard scalar described text
      have behind : (service.convert target (.text text)).2.HasBuiltIn :=
        (convert_registered service target (.text text)).trans standard
      obtain ⟨values, others, read⟩ := ih behind
      refine ⟨value :: values, ?_, List.forall_mem_cons.2 ⟨reads, read⟩⟩
      rw [List.map_cons, convertItems]
      generalize service.convert target (.text text) = step at converted others
      obtain ⟨result, after⟩ := step
      cases converted
      dsimp only at others ⊢
      generalize convertItems _ after (texts.map .text) = rest at others
      obtain ⟨result, last⟩ := rest
      cases others
      rfl

end ConversionService
end RequestDispatch
