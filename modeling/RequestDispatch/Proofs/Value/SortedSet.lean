import RequestDispatch.Proofs.Value.Disorder
import RequestDispatch.Proofs.Value.Equality
import RequestDispatch.Proofs.Value.Reading
import Mathlib.Data.List.Sort

/-!
Sorted sets of ordered scalars: integers, flags, characters, texts, and optional ones of these. The
natural order of such values is the order of what they are read as (`Writes.compares`), and they are
equal only if they are the same. So a sorted set holds each of its items once and in ascending
order, whatever order they were given in and however often. The main statement is
`sorted_set_canonical`.
-/

namespace RequestDispatch

/-- What a scalar is read as. -/
def Native.ofScalar : Value → Native
  | .int number => .integer number.toInt
  | .bool flag => .bool flag
  | .char character => .char character
  | .text words => .text words
  | _ => .absent

namespace NativeType

inductive WritesScalar : NativeType → Value → Prop
  | integer {primitive : Primitive} {least greatest : Int} {value : Int64} :
      primitive.range? = some (least, greatest) → least ≤ value.toInt → value.toInt ≤ greatest →
        WritesScalar (.scalar primitive) (.int value)
  | size {value : Int64} : 0 ≤ value.toInt → WritesScalar .size (.int value)
  | bool (value : Bool) : WritesScalar (.scalar .bool) (.bool value)
  | char (value : Char) : WritesScalar (.scalar .char) (.char value)
  | text (value : String) : WritesScalar .text (.text value)

/-- The values of an ordered scalar type or of its optional type, of which null is one. -/
inductive Writes : NativeType → Value → Prop
  | scalar {type : NativeType} {value : Value} : type.WritesScalar value → Writes type value
  | present {inner : NativeType} {value : Value} :
      inner.WritesScalar value → Writes (.optional inner) value
  | absent (inner : NativeType) : Writes (.optional inner) .null

end NativeType

theorem compare_characters (left right : Char) :
    compare (String.ofList [left]) (String.ofList [right]) = compare left.toNat right.toNat := by
  have less (one other : Char) :
      String.ofList [one] < String.ofList [other] ↔ one.toNat < other.toNat := by
    rw [String.lt_iff_toList_lt]
    simp [List.cons_lt_cons_iff, Char.lt_def, UInt32.lt_iff_toNat_lt]
  rcases lt_trichotomy left.toNat right.toNat with before | same | behind
  · rw [compare_lt_iff_lt.2 before, compare_lt_iff_lt, less]
    exact before
  · rw [Char.toNat_inj.1 same, compare_eq_iff_eq.2 rfl, compare_eq_iff_eq.2 rfl]
  · rw [compare_gt_iff_gt.2 behind, compare_gt_iff_gt]
    exact (less right left).2 behind

namespace NativeType

variable {type : NativeType} {left right : Value}

theorem WritesScalar.filled {value : Value} (writes : type.WritesScalar value) :
    value.isNull = false := by
  cases writes <;> rfl

/-- Values of one scalar type are in the order of what they are read as, in which only the same
value is equal. -/
theorem WritesScalar.compares (one : type.WritesScalar left) (other : type.WritesScalar right) :
    Value.naturalOrder left right = (Native.ofScalar left).order (Native.ofScalar right) ∧
      (Value.naturalOrder left right = .eq → left = right) := by
  cases one with
  | @integer _ _ _ left range =>
      cases other with
      | integer =>
          refine ⟨rfl, fun same => ?_⟩
          rw [Int64.toInt_inj.1 (compare_eq_iff_eq.1 same)]
      | bool => cases range
      | char => cases range
  | size =>
      cases other with
      | size =>
          refine ⟨rfl, fun same => ?_⟩
          rw [Int64.toInt_inj.1 (compare_eq_iff_eq.1 same)]
  | bool left =>
      cases other with
      | integer range => cases range
      | bool right =>
          refine ⟨?_, fun same => ?_⟩
          · cases left <;> cases right <;> decide
          · cases left <;> cases right <;> first | rfl | cases same
  | char left =>
      cases other with
      | integer range => cases range
      | char right =>
          refine ⟨compare_characters left right, fun same => ?_⟩
          have codes := (compare_characters left right).symm.trans same
          rw [Char.toNat_inj.1 (compare_eq_iff_eq.1 codes)]
  | text left =>
      cases other with
      | text right =>
          refine ⟨rfl, fun same => ?_⟩
          exact congrArg Value.text (compare_eq_iff_eq.1 same)

theorem Writes.compares (one : type.Writes left) (other : type.Writes right) :
    Value.naturalOrder left right = (Native.ofScalar left).order (Native.ofScalar right) ∧
      (Value.naturalOrder left right = .eq → left = right) := by
  cases one with
  | scalar one =>
      cases other with
      | scalar other => exact one.compares other
      | present | absent => cases one
  | present one =>
      cases other with
      | scalar other => cases other
      | present other => exact one.compares other
      | absent => cases one <;> exact ⟨rfl, nofun⟩
  | absent =>
      cases other with
      | scalar other => cases other
      | present other => cases other <;> exact ⟨rfl, nofun⟩
      | absent => exact ⟨rfl, fun _ => rfl⟩

theorem WritesScalar.equal_iff (writes : type.WritesScalar left) :
    left.equal right = true ↔ left = right := by
  cases writes <;> cases right <;> simp [Value.equal]

theorem Writes.equal_iff (writes : type.Writes left) : left.equal right = true ↔ left = right := by
  cases writes with
  | scalar writes | present writes => exact writes.equal_iff
  | absent => cases right <;> simp [Value.equal]

theorem WritesScalar.read {value : Value} (writes : type.WritesScalar value) :
    type.read value = .ok (.ofScalar value) := by
  cases writes with
  | integer range lower upper =>
      rw [read_integral range]
      exact if_pos ⟨lower, upper⟩
  | @size value lower =>
      have upper : value.toInt ≤ sizeLimit := value.toInt_le.trans (by decide)
      exact if_pos ⟨lower, upper⟩
  | bool | char | text => rfl

theorem Writes.read {value : Value} (writes : type.Writes value) :
    type.read value = .ok (.ofScalar value) := by
  cases writes with
  | scalar writes => exact writes.read
  | present writes =>
      rw [NativeType.read, writes.filled]
      exact writes.read
  | absent => rfl

theorem writes_scalar_alike (type : NativeType) :
    (∀ value, type.WritesScalar value → value.IsInteger) ∨
      ∀ value, type.WritesScalar value → value.IsWord := by
  by_cases discrete : type = .scalar .bool ∨ type = .scalar .char ∨ type = .text
  · right
    intro value writes
    cases writes with
    | bool value => exact .bool value
    | char value => exact .char value
    | text value => exact .text value
    | integer range => rcases discrete with same | same | same <;> cases same <;> cases range
    | size => rcases discrete with same | same | same <;> cases same
  · left
    simp only [not_or] at discrete
    intro value writes
    cases writes with
    | integer | size => exact .int _
    | bool => exact absurd rfl discrete.1
    | char => exact absurd rfl discrete.2.1
    | text => exact absurd rfl discrete.2.2

theorem writes_alike (type : NativeType) :
    (∀ value, type.Writes value → value.IsInteger) ∨ ∀ value, type.Writes value → value.IsWord := by
  by_cases optional : ∃ inner, type = .optional inner
  · obtain ⟨inner, rfl⟩ := optional
    have null_or_scalar {value : Value} (writes : Writes (.optional inner) value) :
        value = .null ∨ inner.WritesScalar value := by
      cases writes with
      | scalar none => cases none
      | present writes => exact .inr writes
      | absent => exact .inl rfl
    rcases writes_scalar_alike inner with integers | words
    · left
      intro value writes
      rcases null_or_scalar writes with rfl | writes
      · exact .null
      · exact integers value writes
    · right
      intro value writes
      rcases null_or_scalar writes with rfl | writes
      · exact .null
      · exact words value writes
  · have plain {value : Value} (writes : type.Writes value) : type.WritesScalar value := by
      cases writes with
      | scalar writes => exact writes
      | present | absent => exact absurd ⟨_, rfl⟩ optional
    rcases writes_scalar_alike type with integers | words
    · exact .inl fun value writes => integers value (plain writes)
    · exact .inr fun value writes => words value (plain writes)

end NativeType

namespace Native

theorem order_swap (left right : Native) : order right left = (order left right).swap := by
  have oriented {α : Type} [LinearOrder α] (one other : α) :
      compare other one = (compare one other).swap := Std.OrientedCmp.eq_swap
  cases left <;> cases right <;> first | rfl | exact oriented _ _

theorem insert_behind {element : Native} {elements : List Native}
    (behind : ∀ other ∈ elements, other.order element = .lt) :
    insertAscending element elements = elements ++ [element] := by
  induction elements with
  | nil => rfl
  | cons head rest ih =>
      rw [List.forall_mem_cons] at behind
      rw [insertAscending, order_swap head element, behind.1]
      exact congrArg (head :: ·) (ih behind.2)

theorem ascending_eq_self {elements : List Native}
    (sorted : elements.Pairwise fun earlier later => earlier.order later = .lt) :
    ascending elements = elements := by
  induction elements using List.reverseRecOn with
  | nil => rfl
  | append_singleton elements element ih =>
      rw [List.pairwise_append] at sorted
      rw [ascending, List.foldl_append]
      change insertAscending element (ascending elements) = _
      rw [ih sorted.1, insert_behind fun other member => sorted.2.2 other member element (by simp)]

end Native

namespace Value

variable {items : List Value}

theorem distinct_written {type : NativeType} (written : ∀ item ∈ items, type.Writes item) :
    (dedup items).Nodup ∧ ∀ item, item ∈ dedup items ↔ item ∈ items := by
  have given : ∀ item ∈ dedup items, item ∈ items := (dedup_from_sublist [] [] items).subset
  refine ⟨?_, fun item => ⟨given item, fun member => ?_⟩⟩
  · have unequal := dedup_eq_distinct items ▸ distinct_unequal items
    apply unequal.imp_of_mem
    rintro earlier later earlierMember - differs rfl
    have same := (written earlier (given earlier earlierMember)).equal_iff.2 (Eq.refl earlier)
    rw [differs] at same
    cases same
  · rw [dedup_eq_distinct] at given ⊢
    obtain ⟨kept, held, same | same⟩ := kept_or_equal member
    · exact same ▸ held
    · exact (written kept (given kept held)).equal_iff.1 same ▸ held

/-- A value comes before another in the natural order. -/
def Precedes (left right : Value) : Prop := naturalOrder left right = .lt

theorem precedes_asymm {left right : Value} (before : left.Precedes right) :
    ¬right.Precedes left := by
  intro behind
  rw [Precedes, order_swap left right, before] at behind
  cases behind

instance : Std.Irrefl Precedes := ⟨fun _ before => precedes_asymm before before⟩

instance : Std.Antisymm Precedes := ⟨fun _ _ before behind => absurd behind (precedes_asymm before)⟩

/-- A sorted set of values of an ordered type holds each of them once and in strictly ascending
order. -/
theorem collect_written {type : NativeType} {kind : CollectionKind}
    (sorted : kind ∈ [.sortedSet, .treeSet]) (written : ∀ item ∈ items, type.Writes item) :
    ∃ held, collect? kind items = some (.collection .treeSet held) ∧
      (∀ item, item ∈ held ↔ item ∈ items) ∧ held.Pairwise Precedes := by
  obtain ⟨once, each⟩ := distinct_written written
  have orderable : Orderable items := by
    apply orderable_of_alike
    rcases type.writes_alike with integers | words
    · exact .inl fun item member => integers item (written item member)
    · exact .inr (.inr fun item member => words item (written item member))
  have standard : kind.isSorted = true ∧ kind.concrete = .treeSet := by
    simp only [List.mem_cons, List.not_mem_nil, or_false] at sorted
    rcases sorted with rfl | rfl <;> exact ⟨rfl, rfl⟩
  obtain ⟨held, collected, same, inOrder⟩ := collect_in_order standard.1 orderable
  rw [standard.2] at collected
  have given (item : Value) : item ∈ held ↔ item ∈ items := same.mem_iff.trans (each item)
  refine ⟨held, collected, given, ?_⟩
  apply (inOrder.and (same.nodup_iff.2 once)).imp_of_mem
  rintro earlier later earlierMember laterMember ⟨notBehind, differs⟩
  have compared := (written earlier ((given earlier).1 earlierMember)).compares
    (written later ((given later).1 laterMember))
  rw [Precedes]
  cases order : naturalOrder earlier later with
  | lt => rfl
  | eq => exact absurd (compared.2 order) differs
  | gt => exact absurd order notBehind

end Value

/-- A sorted set of values of an ordered type holds those that were given and no others, and it is
the same for all items with the same members, in whatever order and however often these come. It is
read as a list in the strictly ascending order of the type, the order in which the set that it is
read as holds them. -/
theorem sorted_set_canonical {type : NativeType} {kind : CollectionKind}
    (sorted : kind ∈ [.sortedSet, .treeSet]) {items : List Value}
    (written : ∀ item ∈ items, type.Writes item) :
    ∃ held natives, Value.collect? kind items = some (.collection .treeSet held) ∧
      (∀ item, item ∈ held ↔ item ∈ items) ∧
      natives.Pairwise (fun earlier later => Native.order earlier later = .lt) ∧
      NativeType.read (.sequence .vector type) (.collection .treeSet held) = .ok (.items natives) ∧
      NativeType.read (.sequence .orderedSet type) (.collection .treeSet held) =
        .ok (.items natives) ∧
      ∀ other ∈ [.sortedSet, .treeSet], ∀ others : List Value,
        (∀ item, item ∈ others ↔ item ∈ items) →
          Value.collect? other others = Value.collect? kind items := by
  obtain ⟨held, collected, given, inOrder⟩ := Value.collect_written sorted written
  have writes : ∀ item ∈ held, type.Writes item := fun item member =>
    written item ((given item).1 member)
  have natives : (held.map Native.ofScalar).Pairwise fun earlier later =>
      earlier.order later = .lt := by
    rw [List.pairwise_map]
    apply inOrder.imp_of_mem
    intro earlier later earlierMember laterMember before
    have compared := (writes earlier earlierMember).compares (writes later laterMember)
    exact compared.1.symm.trans before
  have read : held.mapM (fun item => type.read item) = .ok (held.map Native.ofScalar) :=
    mapM_eq_map fun item member => (writes item member).read
  have asSet := NativeType.read_sequence .orderedSet .treeSet read
  rw [NativeType.arrange, Native.ascending_eq_self natives] at asSet
  refine ⟨held, held.map Native.ofScalar, collected, given, natives,
    NativeType.read_sequence .vector .treeSet read, asSet, ?_⟩
  intro other otherSorted others sameItems
  obtain ⟨otherHeld, otherCollected, otherGiven, otherOrder⟩ := Value.collect_written otherSorted
    fun item member => written item ((sameItems item).1 member)
  rw [collected, otherCollected, otherOrder.eq_of_mem_iff inOrder fun item =>
    (otherGiven item).trans ((sameItems item).trans (given item).symm)]

/-- Optional texts, one of which comes twice, are held with null first and the empty text next. -/
theorem optional_texts_in_order :
    let type := NativeType.optional .text
    let items : List Value := [.text "b", .null, .text "", .text "a", .text "b"]
    let held := Value.collection .treeSet [.null, .text "", .text "a", .text "b"]
    (∀ item ∈ items, type.Writes item) ∧ Value.collect? .sortedSet items = some held ∧
      Value.collect? .treeSet (items ++ items.reverse) = some held ∧
      NativeType.read (.sequence .vector type) held =
        NativeType.read (.sequence .orderedSet type) held := by
  intro type items held
  have written : ∀ item ∈ items, type.Writes item := by
    simp only [items, List.forall_mem_cons, List.not_mem_nil, false_implies, implies_true, and_true]
    exact ⟨.present (.text "b"), .absent .text, .present (.text ""), .present (.text "a"),
      .present (.text "b")⟩
  have asked : CollectionKind.sortedSet ∈ [.sortedSet, .treeSet] := by decide
  have made : Value.collect? .sortedSet items = some held := by rfl
  obtain ⟨inside, natives, collected, -, -, asList, asSet, same⟩ :=
    sorted_set_canonical asked written
  rw [← Option.some.inj (made.symm.trans collected)] at asList asSet
  refine ⟨written, made, ?_, asList.trans asSet.symm⟩
  rw [same .treeSet (by decide) (items ++ items.reverse) (by simp), made]

end RequestDispatch
