import RequestDispatch.Proofs.Except
import RequestDispatch.Proofs.Value.NaturalOrder
import RequestDispatch.Value.Native

/-!
Values that a native type reads. Sequences and tables are read if their elements are, and the
values that a scalar type reads are alike enough to be sorted, floating numbers apart.
-/

namespace RequestDispatch

inductive Primitive.Holds : Primitive → Value → Prop
  | bool (value : Bool) : Holds .bool (.bool value)
  | char (value : Char) : Holds .char (.char value)
  | integer {primitive : Primitive} {least greatest : Int} {value : Int64} :
      primitive.range? = some (least, greatest) → least ≤ value.toInt → value.toInt ≤ greatest →
        Holds primitive (.int value)
  | single (value : Single) : Holds .single (.float value.cast)
  | double (value : Double) : Holds .double (.float value)

namespace NativeType

inductive IsScalar : NativeType → Prop
  | plain (primitive : Primitive) : IsScalar (.scalar primitive)
  | text : IsScalar .text
  | optional (primitive : Primitive) : IsScalar (.optional (.scalar primitive))
  | optionalText : IsScalar (.optional .text)

/-- The values of the type are totally ordered; floating numbers are not. -/
def IsOrdered : NativeType → Prop
  | .scalar primitive | .optional (.scalar primitive) => primitive.isFloating = false
  | _ => True

/-- Types of parameters: scalars, sequences of scalars other than slices, and tables of scalars
under texts. Ordered sets ask for ordered elements. -/
inductive IsBindable : NativeType → Prop
  | scalar {type : NativeType} : IsScalar type → IsBindable type
  | sequence {form : SequenceForm} {element : NativeType} :
      IsScalar element → form ≠ .slice → (form = .orderedSet → element.IsOrdered) →
        IsBindable (.sequence form element)
  | table {form : TableForm} {element : NativeType} :
      IsScalar element → IsBindable (.table form .text element)

def Reads (type : NativeType) (value : Value) : Prop := ∃ native, type.read value = .ok native

theorem reads_null (inner : NativeType) : Reads (.optional inner) .null := ⟨.absent, rfl⟩

theorem reads_optional {inner : NativeType} {value : Value} (reads : inner.Reads value) :
    Reads (.optional inner) value := by
  obtain ⟨native, read⟩ := reads
  cases null : value.isNull with
  | true => exact ⟨.absent, by rw [NativeType.read, null]; rfl⟩
  | false => exact ⟨native, by rw [NativeType.read, null]; exact read⟩

theorem reads_text (text : String) : Reads .text (.text text) := ⟨.text text, rfl⟩

theorem reads_zero (primitive : Primitive) : Reads (.scalar primitive) (.zero primitive) := by
  cases primitive <;> exact ⟨_, rfl⟩

theorem read_integral {primitive : Primitive} {least greatest : Int}
    (range : primitive.range? = some (least, greatest)) (value : Value) :
    NativeType.read (.scalar primitive) value =
      readInteger primitive.key.name least greatest value := by
  cases primitive <;> cases range <;> rfl

theorem reads_integer {primitive : Primitive} {least greatest : Int} {value : Int64}
    (range : primitive.range? = some (least, greatest)) (lower : least ≤ value.toInt)
    (upper : value.toInt ≤ greatest) : Reads (.scalar primitive) (.int value) := by
  refine ⟨.integer value.toInt, ?_⟩
  rw [read_integral range]
  exact if_pos ⟨lower, upper⟩

theorem holds_zero (primitive : Primitive) : primitive.Holds (.zero primitive) := by
  cases primitive with
  | bool => exact .bool false
  | char => exact .char _
  | single => exact .single (Binary.zero false)
  | double => exact .double _
  | _ => exact .integer rfl (by decide) (by decide)

theorem reads_of_holds {primitive : Primitive} {value : Value} (holds : primitive.Holds value) :
    Reads (.scalar primitive) value := by
  cases holds with
  | integer range lower upper => exact reads_integer range lower upper
  | _ => exact ⟨_, rfl⟩

theorem read_sequence (form : SequenceForm) {element : NativeType} (kind : CollectionKind)
    {items : List Value} {natives : List Native}
    (each : items.mapM (fun item => element.read item) = .ok natives) :
    NativeType.read (.sequence form element) (.collection kind items) =
      .ok (.items (arrange form natives)) := by
  rw [NativeType.read, readItems]
  change (items.mapM fun item => element.read item).bind _ = _
  rw [each]
  rfl

theorem reads_sequence (form : SequenceForm) {element : NativeType} (kind : CollectionKind)
    {items : List Value} (each : ∀ item ∈ items, element.Reads item) :
    Reads (.sequence form element) (.collection kind items) := by
  obtain ⟨natives, read⟩ := mapM_ok each
  exact ⟨.items (arrange form natives), read_sequence form kind read⟩

theorem reads_table (form : TableForm) {element : NativeType} {entries : List (Value × Value)}
    (each : ∀ entry ∈ entries, element.Reads entry.2) :
    Reads (.table form .text element) (.map entries) := by
  have texts : ∀ entry ∈ entries, ∃ text, (do
      return (entry.1.display, ← element.read entry.2) : Except ValueError (String × Native)) =
        .ok text := by
    intro entry member
    obtain ⟨native, read⟩ := each entry member
    exact ⟨(entry.1.display, native), by rw [read]; rfl⟩
  obtain ⟨pairs, read⟩ := mapM_ok texts
  refine ⟨.entries (Entries.ofList pairs), ?_⟩
  rw [NativeType.read, readEntries]
  change (entries.mapM fun entry => (do
    return (entry.1.display, ← element.read entry.2) : Except ValueError (String × Native))).bind
      _ = _
  rw [read]
  rfl

theorem integer_of_reads {primitive : Primitive} {value : Value}
    (integral : primitive.range?.isSome = true) (reads : Reads (.scalar primitive) value) :
    value.IsInteger := by
  obtain ⟨native, read⟩ := reads
  obtain ⟨⟨least, greatest⟩, range⟩ := Option.isSome_iff_exists.1 integral
  rw [read_integral range] at read
  cases value with
  | int value => exact .int value
  | _ => cases read

theorem word_of_reads {primitive : Primitive} {value : Value}
    (discrete : primitive = .bool ∨ primitive = .char) (reads : Reads (.scalar primitive) value) :
    value.IsWord := by
  obtain ⟨native, read⟩ := reads
  rcases discrete with rfl | rfl
  · cases value with
    | bool value => exact .bool value
    | _ => cases read
  · cases value with
    | char value => exact .char value
    | _ => cases read

theorem word_of_reads_text {value : Value} (reads : Reads .text value) : value.IsWord := by
  obtain ⟨native, read⟩ := reads
  cases value with
  | char value => exact .char value
  | text value => exact .text value
  | enumeration type variant => exact .enumeration type variant
  | _ => cases read

theorem optional_of_inner {keeps : Value → Prop} {inner : NativeType} (null : keeps .null)
    (each : ∀ value, inner.Reads value → keeps value) :
    ∀ value, Reads (.optional inner) value → keeps value := by
  intro value reads
  obtain ⟨native, read⟩ := reads
  cases value with
  | null => exact null
  | _ => exact each _ ⟨native, read⟩

theorem discrete_or_integral {primitive : Primitive} (ordered : primitive.isFloating = false) :
    (primitive = .bool ∨ primitive = .char) ∨ primitive.range?.isSome = true := by
  cases primitive <;> first | simp [Primitive.range?]; done | cases ordered

/-- What an ordered scalar type reads is all of one kind. -/
theorem reads_alike {type : NativeType} (scalar : type.IsScalar) (ordered : type.IsOrdered) :
    (∀ value, type.Reads value → value.IsInteger) ∨ ∀ value, type.Reads value → value.IsWord := by
  cases scalar with
  | plain primitive =>
      rcases discrete_or_integral ordered with discrete | integral
      · right
        intro value
        exact word_of_reads discrete
      · left
        intro value
        exact integer_of_reads integral
  | text =>
      right
      intro value
      exact word_of_reads_text
  | optional primitive =>
      rcases discrete_or_integral ordered with discrete | integral
      · right
        apply optional_of_inner Value.IsWord.null
        intro value
        exact word_of_reads discrete
      · left
        apply optional_of_inner Value.IsInteger.null
        intro value
        exact integer_of_reads integral
  | optionalText =>
      right
      apply optional_of_inner Value.IsWord.null
      intro value
      exact word_of_reads_text

theorem collection_reads {form : SequenceForm} {element : NativeType} {kind : CollectionKind}
    {items : List Value} (scalar : element.IsScalar)
    (described : form.collectionKind? = some kind)
    (ordered : form = .orderedSet → element.IsOrdered) (each : ∀ item ∈ items, element.Reads item) :
    ∃ collected, Value.collect? kind items = some collected ∧
      Reads (.sequence form element) collected := by
  have orderable : kind.isSorted = true → Value.Orderable items := by
    intro sorted
    apply Value.orderable_of_alike
    have form : form = .orderedSet := by
      cases form <;> cases described <;> first | rfl | cases sorted
    rcases reads_alike scalar (ordered form) with integers | words
    · left
      intro item member
      exact integers item (each item member)
    · right; right
      intro item member
      exact words item (each item member)
  obtain ⟨held, collected, given⟩ := Value.collect_items kind orderable
  refine ⟨_, collected, ?_⟩
  apply reads_sequence
  intro item member
  exact each item (given item member)

end NativeType
end RequestDispatch
