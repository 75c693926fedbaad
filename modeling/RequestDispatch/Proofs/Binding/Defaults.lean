import RequestDispatch.Proofs.Binding.Maps
import RequestDispatch.Proofs.Text.Percent

/-!
Defaults. The text of a default stands for values that a request could hold: itself, the values that
it lists between commas, or the pairs that it lists. A request without a value of the parameter and
the same request with these values among its fields are fetched from alike (`fetch_default`).
-/

namespace RequestDispatch

/-- The lists that hold the items of two others and keep the order of each. -/
inductive Among {α : Type} : List α → List α → List α → Prop
  | nil : Among [] [] []
  | added (item : α) {added held all : List α} :
      Among added held all → Among (item :: added) held (item :: all)
  | held (item : α) {added held all : List α} :
      Among added held all → Among added (item :: held) (item :: all)

theorem Among.filterMap_eq {α β : Type} {added held all : List α} (among : Among added held all)
    {read : α → Option β} (absent : held.filterMap read = []) :
    all.filterMap read = added.filterMap read := by
  induction among with
  | nil => rfl
  | added item _ ih => rw [List.filterMap_cons, List.filterMap_cons, ih absent]
  | held item _ ih =>
      rw [List.filterMap_cons] at absent ⊢
      cases found : read item with
      | none =>
          rw [found] at absent
          exact ih absent
      | some value =>
          rw [found] at absent
          cases absent

def IsVisible (text : String) : Prop :=
  ∀ character ∈ text.toList, character = '\t' ∨ 0x20 ≤ character.toNat ∧ character.toNat < 0x7F

theorem readable_of_visible {text : String} (visible : IsVisible text) :
    readableText? (Text.utf8Bytes text) = some text := by
  have ascii : ∀ character ∈ text.toList, character.toNat < 0x80 := by
    intro character member
    rcases visible character member with rfl | bounds
    · decide
    · omega
  have bytes := Text.utf8_bytes_ascii ascii
  rw [String.ofList_toList] at bytes
  rw [bytes, readableText?, if_pos]
  · have back : (text.toList.map fun character => UInt8.ofNat character.toNat).map Char.ofUInt8 =
        text.toList := by
      rw [List.map_map]
      exact (List.map_congr_left fun character member =>
        Text.of_byte_ascii (ascii character member)).trans (List.map_id text.toList)
    rw [back, String.ofList_toList]
  · rw [List.all_map, List.all_eq_true]
    intro character member
    have code : (UInt8.ofNat character.toNat).toNat = character.toNat :=
      UInt8.toNat_ofNat_of_lt' (by have := ascii character member; simp [UInt8.size]; omega)
    rcases visible character member with rfl | bounds
    · rfl
    · simp [UInt8.le_iff_toNat_le, UInt8.lt_iff_toNat_lt, code, bounds]

/-- The values that a default text of a parameter stands for, unless the parameter is a map. -/
def standsFor (type : TypeDescriptor) (text : String) : List String :=
  if type.isArray || type.isCollection then listedValues text else [text]

/-- A request that holds what a default text stands for, and what another request holds. -/
inductive Supplies (type : TypeDescriptor) (name text : String) (request : Request) :
    ManyValued → Request → Prop
  | values {fields : List (String × String)} :
      type.isMap = false →
      Among ((standsFor type text).map fun value => (name, value)) request.query fields →
      Supplies type name text request .query { request with query := fields }
  | entries {fields : List (String × String)} :
      type.isMap = true →
      Among ((listedPairs text).map fun pair => (name ++ "[" ++ pair.1 ++ "]", pair.2))
        request.query fields →
      Supplies type name text request .query { request with query := fields }
  | headers {key : String} {fields : List (String × List UInt8)} :
      normalizeHeaderName? name = some key →
      (∀ value ∈ standsFor type text, IsVisible value) →
      Among ((standsFor type text).map fun value => (key, Text.utf8Bytes value))
        request.headers.fields fields →
      Supplies type name text request .header { request with headers := ⟨fields⟩ }

section

variable {type : TypeDescriptor} {name text : String} {request supplied : Request}
  {origin : ManyValued}

theorem query_parameters_eq (request : Request) (name : String) :
    request.queryParameters name =
      request.query.filterMap fun field => if field.1 = name then some field.2 else none := by
  rw [Request.queryParameters, ← List.filterMap_eq_map, ← List.filterMap_eq_filter,
    List.filterMap_filterMap]
  congr 1
  funext field
  by_cases same : field.1 = name <;> simp [Option.guard, same]

theorem header_values_eq (request : Request) {name key : String}
    (normal : normalizeHeaderName? name = some key) :
    request.headerValues name = request.headers.fields.filterMap fun field =>
      if field.1 = key then readableText? field.2 else none := by
  simp only [Request.headerValues, Headers.texts, Headers.values, normal]
  rw [← List.filterMap_eq_map, ← List.filterMap_eq_filter, List.filterMap_filterMap,
    List.filterMap_filterMap]
  congr 1
  funext field
  by_cases same : field.1 = key <;> simp [Option.guard, same]

theorem Supplies.values_eq (supplies : Supplies type name text request origin supplied)
    (notMap : type.isMap = false) (absent : origin.values request name = []) :
    origin.values supplied name = standsFor type text := by
  cases supplies with
  | values _ among =>
      rw [ManyValued.values, query_parameters_eq] at absent ⊢
      rw [among.filterMap_eq absent]
      simp [List.filterMap_map]
  | entries map => rw [notMap] at map; cases map
  | headers normal visible among =>
      rw [ManyValued.values, header_values_eq _ normal] at absent ⊢
      have read (value : String) (member : value ∈ standsFor type text) :
          readableText? (Text.utf8Bytes value) = some value :=
        readable_of_visible (visible value member)
      rw [among.filterMap_eq absent, List.filterMap_map]
      simp only [Function.comp_def, if_true]
      rw [List.filterMap_congr read, List.filterMap_some]

theorem Supplies.entry_pairs (supplies : Supplies type name text request .query supplied)
    (map : type.isMap = true) (absent : entryPairs name request.query = []) :
    entryPairs name supplied.query = listedPairs text := by
  cases supplies with
  | values notMap => rw [map] at notMap; cases notMap
  | entries _ among =>
      rw [entryPairs, among.filterMap_eq absent, List.filterMap_map]
      have read (pair : String × String) :
          entryKey? name (name ++ "[" ++ pair.1 ++ "]") = some pair.1 := entry_key_iff.2 (.inr rfl)
      simp [read]

theorem raw_scalar_default {fallback : Fallback} (default : fallback.default = some text)
    (single : type.isCollection = false) (origin : ManyValued) (name : String) :
    Fetcher.rawScalar origin name type fallback (standsFor type text) =
      Fetcher.rawScalar origin name type fallback [] := by
  rw [standsFor, single, Bool.or_false]
  cases array : type.isArray with
  | false => simp [Fetcher.rawScalar, default, array]
  | true =>
      rw [if_pos rfl]
      cases listed : listedValues text with
      | nil => rfl
      | cons first rest =>
          simp [Fetcher.rawScalar, default, array, split_default_eq, listed]

theorem raw_items_default {fallback : Fallback} (default : fallback.default = some text)
    (origin : ManyValued) (name : String) :
    Fetcher.rawItems origin name fallback (listedValues text) =
      Fetcher.rawItems origin name fallback [] := by
  cases listed : listedValues text with
  | nil => rfl
  | cons first rest => simp [Fetcher.rawItems, default, split_default_eq, listed]

theorem raw_pairs_default {fallback : Fallback} (default : fallback.default = some text)
    {query other : List (String × String)} (absent : entryPairs name query = [])
    (supplied : entryPairs name other = listedPairs text) :
    Fetcher.rawPairs name fallback other = Fetcher.rawPairs name fallback query := by
  rw [Fetcher.rawPairs, Fetcher.rawPairs, absent, supplied]
  cases listed : listedPairs text with
  | nil => rfl
  | cons first rest => simp [default, split_default_pairs_eq, listed]

end

/-- The fetcher of a parameter with a default gives for a request without a value of the parameter
what it gives when the request holds the values that the default stands for. -/
theorem fetch_default {State Bean : Type} {parameter : Parameter} {origin : ManyValued}
    {name text : String} {mapping : RouteMapping} {creation : ConversionService}
    {fetcher : Fetcher} (bound : parameter.binding = origin.binding name)
    (default : parameter.default = some text)
    (created : (parameter.fetcher mapping creation).1 = .ok fetcher)
    (object : Bean → SharedObject) (exchange : Exchange State) (service : ConversionService)
    (container : Container Bean) (absent : parameter.Absent exchange.request)
    {supplied : Request}
    (supplies : Supplies parameter.type name text exchange.request origin supplied) :
    fetcher.fetch object exchange service container =
      fetcher.fetch object { exchange with request := supplied } service container := by
  have many : (parameter.manyValuedFetcher creation origin name).1 = .ok fetcher := by
    rw [Parameter.fetcher, bound] at created
    cases origin <;> exact created
  have fallback : parameter.fallback.default = some text := default
  rcases created_many many with ⟨kind, item, adapter, shape, rfl⟩ | ⟨key, value, shape, rfl, rfl⟩ |
    ⟨single, notMap, rfl⟩
  · have notMap : parameter.type.isMap = false := by simp [TypeDescriptor.isMap, shape]
    rw [absent_iff bound notMap] at absent
    have values := supplies.values_eq notMap absent
    have listed : standsFor parameter.type text = listedValues text := by
      simp [standsFor, TypeDescriptor.isCollection, shape]
    rw [Fetcher.fetch, Fetcher.fetch, absent, values, listed, raw_items_default fallback]
  · have map : parameter.type.isMap = true := by simp [TypeDescriptor.isMap, shape]
    have none : entryPairs name exchange.request.query = [] := by
      rw [Parameter.Absent, bound, ManyValued.binding, shape] at absent
      exact absent
    rw [fetch_map_eq, fetch_map_eq,
      raw_pairs_default fallback none (supplies.entry_pairs map none)]
  · rw [absent_iff bound notMap] at absent
    have values := supplies.values_eq notMap absent
    rw [Fetcher.fetch, Fetcher.fetch, absent, values, raw_scalar_default fallback single]

/-- The default of a map lists a pair, an empty piece and a key alone. -/
theorem fetch_map_default :
    let target := TypeDescriptor.mapOf .text .text
    let parameter :=
      { Parameter.declare "limits" target with query := some "limits", default := some " a = 1,, b" }
    let mapping : RouteMapping := ⟨[⟨"/items", "/items".toList, []⟩], [], [], [], [], []⟩
    let request (query : List (String × String)) : Request := ⟨⟨"/items", query⟩, "GET", .empty, []⟩
    let supplied := request [("limits[a]", "1"), ("page", "2"), ("limits[b]", "")]
    let exchange := Exchange.start (request [("page", "2")]) ()
    let service := ConversionService.standard .standard
    ∃ fetcher, (parameter.fetcher mapping service).1 = .ok fetcher ∧
      fetcher.fetch (id : SharedObject → SharedObject) exchange service .empty =
        fetcher.fetch id { exchange with request := supplied } service .empty := by
  intro target parameter mapping request supplied exchange service
  have created : (parameter.fetcher mapping service).1 =
      .ok (.map "limits" .text .text ⟨some " a = 1,, b", true⟩) := by rfl
  have bound : parameter.binding = ManyValued.query.binding "limits" := rfl
  have absent : parameter.Absent exchange.request := by
    change entryPairs "limits" [("page", "2")] = []
    decide
  have listed : listedPairs " a = 1,, b" = [("a", "1"), ("b", "")] := by decide +kernel
  have among : Among ((listedPairs " a = 1,, b").map fun pair =>
      ("limits" ++ "[" ++ pair.1 ++ "]", pair.2)) exchange.request.query supplied.query := by
    rw [listed]
    exact .added _ (.held _ (.added _ .nil))
  have supplies : Supplies parameter.type "limits" " a = 1,, b" exchange.request .query supplied :=
    .entries rfl among
  exact ⟨_, created, fetch_default bound rfl created id exchange service .empty absent supplies⟩

end RequestDispatch
