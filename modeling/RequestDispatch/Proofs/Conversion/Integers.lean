import RequestDispatch.Proofs.Conversion.BuiltIn
import RequestDispatch.Proofs.Number.Integer

/-!
Integers from texts. The number that a text denotes, blanks around it aside, is what the text
becomes if the integer type and 64 bits hold it; every other text becomes null where the value may
be absent and zero where it may not (`convert_integer_text`).
-/

namespace RequestDispatch
namespace Converter

/-- The text, blanks around it aside, denotes a number within the bounds and within 64 bits. There
is a minus sign only where the bounds admit negative numbers. -/
structure IntegerText (least greatest : Int) (raw : String) (value : Int) : Prop where
  denotes : ∃ before text after, raw.toList = before ++ text ++ after ∧
    (∀ character ∈ before ++ after, Text.isBlank character = true) ∧
      Integer.Denotes (decide (least < 0)) text value
  lower : least ≤ value
  upper : value ≤ greatest
  narrow : value ≤ greatestInteger

theorem read_trimmed_iff {least greatest : Int} {raw : String} {value : Int} :
    Integer.readWithin? least (min greatest greatestInteger)
        (Text.trimBoth Text.isBlank raw.toList) = some value ↔
      IntegerText least greatest raw value := by
  rw [Integer.read_within_iff, le_min_iff]
  constructor
  · rintro ⟨denotes, lower, upper, narrow⟩
    obtain ⟨before, after, whole, blank⟩ := Text.trimBoth_within Text.isBlank raw.toList
    exact ⟨⟨before, _, after, whole, blank, denotes⟩, lower, upper, narrow⟩
  · rintro ⟨⟨before, text, after, whole, blank, denotes⟩, lower, upper, narrow⟩
    rw [whole, Text.trimBoth_append denotes.not_blank blank]
    exact ⟨denotes, lower, upper, narrow⟩

variable {primitive : Primitive} {least greatest : Int}

theorem IntegerText.toInt {raw : String} {value : Int}
    (range : primitive.range? = some (least, greatest))
    (text : IntegerText least greatest raw value) : (Int64.ofInt value).toInt = value := by
  have wide := least_wide range
  have lower := text.lower
  have narrow := text.narrow
  rw [greatestInteger] at narrow
  exact Int64.toInt_ofInt_of_le (by omega) (by omega)

theorem parse_integer_iff (range : primitive.range? = some (least, greatest)) {raw : String}
    {number : Int64} :
    parseNumber? primitive (Text.trimBoth Text.isBlank raw.toList) = some (.int number) ↔
      IntegerText least greatest raw number.toInt := by
  rw [parse_integer range]
  constructor
  · intro parsed
    obtain ⟨value, read, same⟩ := Option.map_eq_some_iff.1 parsed
    have text := read_trimmed_iff.1 read
    have number : number.toInt = value := by
      rw [← text.toInt range, ← Value.int.inj same]
    rwa [number]
  · intro text
    rw [read_trimmed_iff.2 text, Option.map_some, Int64.ofInt_toInt]

theorem parse_integer_eq_none (range : primitive.range? = some (least, greatest)) {raw : String}
    (other : ∀ value, ¬IntegerText least greatest raw value) :
    parseNumber? primitive (Text.trimBoth Text.isBlank raw.toList) = none := by
  rw [parse_integer range, Option.map_eq_none_iff, Option.eq_none_iff_forall_not_mem]
  intro value read
  exact other value (read_trimmed_iff.1 read)

theorem integer_text_of_number {number : Int64} (lower : least ≤ number.toInt)
    (upper : number.toInt ≤ greatest) :
    IntegerText least greatest (toString number.toInt) number.toInt where
  denotes := by
    refine ⟨[], _, [], (List.append_nil _).symm, by simp, Integer.denotes_text ?_⟩
    intro below
    exact decide_eq_true (Int.lt_of_le_of_lt lower below)
  lower := lower
  upper := upper
  narrow := Int64.toInt_le number

end Converter

namespace ConversionService

open Converter

variable {service : ConversionService} {primitive : Primitive} {least greatest : Int}

theorem convert_boxed_number (standard : service.HasBuiltIn)
    (range : primitive.range? = some (least, greatest)) (raw : String) :
    (service.convert (.boxed primitive) (.text raw)).1 =
      .ok ((parseNumber? primitive (Text.trimBoth Text.isBlank raw.toList)).getD .null) := by
  have numeric : primitiveConverter primitive = number := by
    cases primitive <;> cases range <;> rfl
  have boxed : scalarTarget (.boxed primitive) = .ok (primitive, true) := rfl
  rw [TypeDescriptor.boxed, convert_text_of_registered
    (by rw [standard, lookup_boxed, numeric]) (fun _ => rfl)]
  exact number_convert boxed service.nextSerial raw

theorem convert_plain_number (standard : service.HasBuiltIn)
    (range : primitive.range? = some (least, greatest)) (raw : String) :
    (service.convert (.primitive primitive) (.text raw)).1 =
      .ok ((parseNumber? primitive (Text.trimBoth Text.isBlank raw.toList)).getD (.int 0)) := by
  have numeric : primitiveConverter primitive = number := by
    cases primitive <;> cases range <;> rfl
  have zero : Value.zero primitive = .int 0 := by
    cases primitive <;> cases range <;> rfl
  have plain : scalarTarget (.primitive primitive) = .ok (primitive, false) := rfl
  rw [TypeDescriptor.primitive, convert_text_of_registered
    (by rw [standard, lookup_plain, numeric]) (fun _ => rfl), ← zero]
  exact number_convert plain service.nextSerial raw

/-- A text becomes a number of an integer type exactly if it denotes this number, and null or zero
if it denotes none that the type and 64 bits hold. It is always converted, and every number of the
type is read from the text that it is written as. -/
theorem convert_integer_text (standard : service.HasBuiltIn)
    (range : primitive.range? = some (least, greatest)) :
    (∀ raw, (∀ number : Int64,
        (service.convert (.boxed primitive) (.text raw)).1 = .ok (.int number) ↔
          IntegerText least greatest raw number.toInt) ∧
      ((∀ value, ¬IntegerText least greatest raw value) →
        (service.convert (.boxed primitive) (.text raw)).1 = .ok .null) ∧
      ∃ value, (service.convert (.boxed primitive) (.text raw)).1 = .ok value ∧
        (service.convert (.primitive primitive) (.text raw)).1 =
          .ok (if value.isNull then .int 0 else value)) ∧
    ∀ number : Int64, least ≤ number.toInt → number.toInt ≤ greatest →
      (service.convert (.boxed primitive) (.text (toString number.toInt))).1 = .ok (.int number) ∧
        (service.convert (.primitive primitive) (.text (toString number.toInt))).1 =
          .ok (.int number) := by
  constructor
  · intro raw
    rw [convert_boxed_number standard range, convert_plain_number standard range]
    refine ⟨?_, ?_, ?_⟩
    · intro number
      rw [← parse_integer_iff range]
      cases parseNumber? primitive (Text.trimBoth Text.isBlank raw.toList) with
      | none => simp
      | some value => simp
    · intro other
      rw [parse_integer_eq_none range other]
      rfl
    · refine ⟨_, rfl, ?_⟩
      rw [parse_integer range]
      cases Integer.readWithin? least (min greatest greatestInteger)
        (Text.trimBoth Text.isBlank raw.toList) with
      | none => rfl
      | some value => rfl
  · intro number lower upper
    have written := parse_integer_iff range |>.2 (integer_text_of_number lower upper)
    rw [convert_boxed_number standard range, convert_plain_number standard range, written]
    exact ⟨rfl, rfl⟩

theorem blanks_and_zeros_are_read :
    (standard .standard).HasBuiltIn ∧ Primitive.uint8.range? = some (0, 255) ∧
      ((standard .standard).convert (.boxed .uint8) (.text " +007\n")).1 = .ok (.int 7) ∧
      ((standard .standard).convert (.primitive .uint8) (.text "200")).1 = .ok (.int 200) := by
  have listed := standard_hasBuiltIn .standard
  have range : Primitive.uint8.range? = some (0, 255) := rfl
  have read := convert_integer_text listed range
  have digits : Integer.Digits ['0', '0', '7'] 7 := .concat (.concat (.single rfl) rfl) rfl
  have surrounded : " +007\n".toList = [' '] ++ '+' :: ['0', '0', '7'] ++ ['\n'] := by decide
  have blank : ∀ character ∈ [' '] ++ ['\n'], Text.isBlank character = true := by
    rw [List.forall_mem_append, List.forall_mem_singleton, List.forall_mem_singleton]
    decide
  refine ⟨listed, range, ?_, ?_⟩
  · rw [(read.1 " +007\n").1 7]
    refine ⟨⟨_, _, _, surrounded, blank, .plus digits⟩, ?_, ?_, ?_⟩ <;> decide
  · exact (read.2 200 (by decide) (by decide)).2

end ConversionService
end RequestDispatch
