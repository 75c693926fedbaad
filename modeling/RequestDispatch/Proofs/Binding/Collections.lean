import RequestDispatch.Proofs.Binding.Typed
import RequestDispatch.Proofs.Conversion.InTurn

/-!
Collections that are bound to a query. The values of the query are converted in turn, and what
stands in the collection depends on its kind alone: all of them, those that are unlike every one
kept before, or the latter put in order. Only a sorted collection may not come about, and only if it
has more than twenty elements that the natural order does not put in order (`Collected`). The main
statement is `fetch_collected`.
-/

namespace RequestDispatch

/-- What a collection of each standard kind is made of. -/
inductive Collected (values : List Value) : CollectionKind → Option Value → Prop
  | sequence {kind : CollectionKind} :
      kind ∈ [.collection, .list, .queue, .deque, .arrayList, .linkedList, .arrayDeque] →
      Collected values kind (some (.collection kind.concrete values))
  | unique {kind : CollectionKind} :
      kind ∈ [.set, .hashSet, .linkedHashSet] →
      Collected values kind (some (.collection kind.concrete (Value.distinct values)))
  | sorted {kind : CollectionKind} {items : List Value} :
      kind ∈ [.sortedSet, .treeSet] → items.Perm (Value.distinct values) →
      Collected values kind (some (.collection kind.concrete items))
  | unsorted {kind : CollectionKind} :
      kind ∈ [.sortedSet, .treeSet] → 20 < (Value.distinct values).length →
      ¬Value.Orderable (Value.distinct values) → Collected values kind none

namespace Value

theorem sort_natural_few {items : List Value} (few : items.length ≤ 20) :
    ∃ sorted, sortNatural? items = some sorted :=
  ⟨_, if_pos few⟩

theorem collected_sorted {kind : CollectionKind} (sorted : kind ∈ [.sortedSet, .treeSet])
    (items : List Value) :
    Collected items kind ((sortNatural? (dedup items)).map (.collection kind.concrete)) := by
  rw [dedup_eq_distinct]
  cases result : sortNatural? (distinct items) with
  | some found => exact .sorted sorted (Sorting.stableSort?_perm result)
  | none =>
      refine .unsorted sorted (not_le.1 fun few => ?_) fun orderable => ?_
      · obtain ⟨found, some⟩ := sort_natural_few few
        rw [result] at some
        cases some
      · obtain ⟨found, some⟩ := orderable.sorted
        rw [result] at some
        cases some

theorem collected {kind : CollectionKind} (standard : ∀ key, kind ≠ .custom key)
    (items : List Value) : Collected items kind (collect? kind items) := by
  cases kind with
  | custom key => exact absurd rfl (standard key)
  | sortedSet | treeSet => exact collected_sorted (by decide) items
  | set | hashSet | linkedHashSet =>
      change Collected items _ (some (.collection _ (dedup items)))
      rw [dedup_eq_distinct]
      exact .unique (by decide)
  | _ => exact .sequence (by decide)

end Value

theorem fetch_collection_eq {State Bean : Type} (object : Bean → SharedObject)
    (exchange : Exchange State) (service : ConversionService) (container : Container Bean)
    (origin : ManyValued) (name : String) (kind : CollectionKind) (element : TypeDescriptor)
    (fallback : Fallback) :
    (Fetcher.collection origin name kind element none fallback).fetch object exchange service
        container =
      match Fetcher.rawItems origin name fallback (origin.values exchange.request name) with
      | .error error => (some (.error error), service, container)
      | .ok raw =>
        let converted := ConversionService.convertItems
          (fun service item => service.convert element item) service raw
        (match converted.1 with
          | .error error => some (.error (.conversion error))
          | .ok items => (Value.collect? kind items).map .ok,
          converted.2, container) := rfl

theorem fetch_collected {State Bean : Type} {parameter : Parameter} {name : String}
    {kind : CollectionKind} {element : TypeDescriptor} {mapping : RouteMapping}
    {creation : ConversionService} {fetcher : Fetcher}
    (shape : parameter.type.kind = .collection kind element)
    (standard : ∀ key, kind ≠ .custom key) (bound : parameter.binding = .query name)
    (created : (parameter.fetcher mapping creation).1 = .ok fetcher)
    (object : Bean → SharedObject) (exchange : Exchange State) (service : ConversionService)
    (container : Container Bean) (present : exchange.request.queryParameters name ≠ []) :
    let texts := ConversionService.itemTexts element (exchange.request.queryParameters name)
    let fetched := fetcher.fetch object exchange service container
    fetched.2.2 = container ∧
      ((∃ values collected, service.ConvertsAll texts values fetched.2.1 ∧
          Collected values kind collected ∧ fetched.1 = collected.map .ok) ∨
        ∃ error, service.Refuses texts error fetched.2.1 ∧
          fetched.1 = some (.error (.conversion error))) := by
  rw [Parameter.fetcher, bound] at created
  obtain rfl := created_collection shape standard created
  cases found : exchange.request.queryParameters name with
  | nil => exact absurd found present
  | cons first rest =>
      rw [fetch_collection_eq, ManyValued.values, found, Fetcher.rawItems]
      refine ⟨rfl, ?_⟩
      rcases ConversionService.convert_texts_in_turn element service (first :: rest) with
        ⟨values, last, converts, converted⟩ | ⟨error, last, refuses, converted⟩
      · simp only [converted]
        exact .inl ⟨values, _, converts, Value.collected standard values, rfl⟩
      · simp only [converted]
        exact .inr ⟨error, refuses, rfl⟩

/-- A sorted set is read from texts of which two are the same number. -/
theorem fetch_sorted_set_of_texts :
    let target := TypeDescriptor.collectionOf .sortedSet (.primitive .int32)
    let parameter := { Parameter.declare "ids" target with query := some "ids" }
    let mapping : RouteMapping := ⟨[⟨"/items", "/items".toList, []⟩], [], [], [], [], []⟩
    let request : Request :=
      ⟨⟨"/items", [("ids", "7"), ("ids", "07"), ("ids", "-3")]⟩, "GET", .empty, []⟩
    let service := ConversionService.standard .standard
    ∃ fetcher, (parameter.fetcher mapping service).1 = .ok fetcher ∧
      ∃ values items, items.Perm (Value.distinct values) ∧
        (fetcher.fetch (id : SharedObject → SharedObject) (Exchange.start request ()) service
          .empty).1 = some (.ok (.collection .treeSet items)) := by
  intro target parameter mapping request service
  have created : (parameter.fetcher mapping service).1 =
      .ok (.collection .query "ids" .sortedSet (.primitive .int32) none ⟨none, true⟩) := by rfl
  have present : request.queryParameters "ids" ≠ [] := by decide +kernel
  have standard : ∀ key, CollectionKind.sortedSet ≠ .custom key := by simp
  obtain ⟨-, result⟩ := fetch_collected rfl standard rfl created (id : SharedObject → SharedObject)
    (Exchange.start request ()) service .empty present
  refine ⟨_, created, ?_⟩
  have given : (((Fetcher.collection .query "ids" .sortedSet (.primitive .int32) none
      ⟨none, true⟩).fetch (id : SharedObject → SharedObject) (Exchange.start request ()) service
        .empty).1.bind Except.toOption).isSome = true := by decide +kernel
  rcases result with ⟨values, collected, -, made, same⟩ | ⟨error, -, same⟩
  · cases made with
    | sequence other => simp at other
    | unique other => simp at other
    | sorted _ perm => exact ⟨values, _, perm, same⟩
    | unsorted =>
        rw [same] at given
        cases given
  · rw [same] at given
    cases given

/-- What is not a number stands in no order with the numbers around it. -/
theorem sorted_set_abandoned :
    let target := TypeDescriptor.collectionOf .sortedSet (.primitive .double)
    let parameter := { Parameter.declare "x" target with query := some "x" }
    let mapping : RouteMapping := ⟨[⟨"/", "/".toList, []⟩], [], [], [], [], []⟩
    let texts := ["20", "19", "18", "17", "16", "15", "14", "13", "12", "11", "NaN", "10", "9", "8",
      "7", "6", "5", "4", "3", "2", "1"]
    let request : Request := ⟨⟨"/", texts.map fun text => ("x", text)⟩, "GET", .empty, []⟩
    let service := ConversionService.standard .standard
    ∃ fetcher, (parameter.fetcher mapping service).1 = .ok fetcher ∧
      (fetcher.fetch (id : SharedObject → SharedObject) (Exchange.start request ()) service
        .empty).1 = none := by
  intro target parameter mapping texts request service
  have created : (parameter.fetcher mapping service).1 =
      .ok (.collection .query "x" .sortedSet (.primitive .double) none ⟨none, true⟩) := by rfl
  refine ⟨_, created, Option.isNone_iff_eq_none.1 ?_⟩
  decide +kernel

end RequestDispatch
