import RequestDispatch.Proofs.Binding.Listed
import RequestDispatch.Proofs.Binding.Typed
import RequestDispatch.Proofs.Conversion.InTurn

/-!
Maps that are bound to a query. An entry is written `name:key` or `name[key]`; which of the two does
not matter, and nor does what else the query holds (`Respells`). The entries are converted in turn
and put into the map in turn, and without any the default, a failure or the empty map stands for
them (`MapFetched`). The main statement is `fetch_map_of_entries`.
-/

namespace RequestDispatch

/-- The name that a query field has if it is an entry of a map. -/
def HoldsKey (name queryName key : String) : Prop :=
  queryName = name ++ ":" ++ key ∨ queryName = name ++ "[" ++ key ++ "]"

theorem entry_key_iff {name queryName key : String} :
    entryKey? name queryName = some key ↔ HoldsKey name queryName key := by
  simp only [HoldsKey, ← String.toList_inj, String.toList_append]
  constructor
  · intro held
    unfold entryKey? at held
    split at held
    · next dropped =>
      cases held
      exact .inl (by simpa using Text.dropBeginning_eq_some.1 dropped)
    · next rest dropped =>
      split at held
      · next closed =>
        cases held
        have whole := List.dropLast_append_getLast? _ closed
        rw [Text.dropBeginning_eq_some, ← whole] at dropped
        exact .inr (by simpa using dropped)
      · cases held
    · cases held
  · rintro (colon | brackets)
    · have dropped : Text.dropBeginning name.toList queryName.toList =
          some (':' :: key.toList) := Text.dropBeginning_eq_some.2 (by simp [colon])
      simp [entryKey?, dropped]
    · have dropped : Text.dropBeginning name.toList queryName.toList =
          some ('[' :: (key.toList ++ [']'])) := Text.dropBeginning_eq_some.2 (by simp [brackets])
      simp [entryKey?, dropped]

theorem no_entry_key_iff {name queryName : String} :
    entryKey? name queryName = none ↔ ∀ key, ¬HoldsKey name queryName key := by
  simp only [← entry_key_iff, Option.eq_none_iff_forall_ne_some, ne_eq]

/-- The entries of a map among the fields of a query, as pairs of a key and a value, in their
order. -/
inductive EntryFields (name : String) : List (String × String) → List (String × String) → Prop
  | nil : EntryFields name [] []
  | entry {queryName key : String} (text : String) {query pairs : List (String × String)} :
      HoldsKey name queryName key → EntryFields name query pairs →
      EntryFields name ((queryName, text) :: query) ((key, text) :: pairs)
  | other {queryName : String} (text : String) {query pairs : List (String × String)} :
      (∀ key, ¬HoldsKey name queryName key) → EntryFields name query pairs →
      EntryFields name ((queryName, text) :: query) pairs

theorem entry_fields_iff {name : String} {query pairs : List (String × String)} :
    EntryFields name query pairs ↔ entryPairs name query = pairs := by
  constructor
  · intro fields
    induction fields with
    | nil => rfl
    | entry text holds _ ih =>
        rw [← ih]
        simp [entryPairs, entry_key_iff.2 holds]
    | other text none _ ih =>
        rw [← ih]
        simp [entryPairs, no_entry_key_iff.2 none]
  · rintro rfl
    induction query with
    | nil => exact .nil
    | cons field query ih =>
        obtain ⟨queryName, text⟩ := field
        cases held : entryKey? name queryName with
        | none => simpa [entryPairs, held] using .other text (no_entry_key_iff.1 held) ih
        | some key => simpa [entryPairs, held] using .entry text (entry_key_iff.1 held) ih

/-- Queries that differ in how the entries of a map are written, and in fields that are none. -/
inductive Respells (name : String) : List (String × String) → List (String × String) → Prop
  | nil : Respells name [] []
  | entry {queryName otherName key : String} (text : String) {query other : List (String × String)} :
      HoldsKey name queryName key → HoldsKey name otherName key → Respells name query other →
      Respells name ((queryName, text) :: query) ((otherName, text) :: other)
  | left {queryName : String} (text : String) {query other : List (String × String)} :
      (∀ key, ¬HoldsKey name queryName key) → Respells name query other →
      Respells name ((queryName, text) :: query) other
  | right {otherName : String} (text : String) {query other : List (String × String)} :
      (∀ key, ¬HoldsKey name otherName key) → Respells name query other →
      Respells name query ((otherName, text) :: other)

theorem Respells.entry_pairs {name : String} {query other : List (String × String)}
    (respells : Respells name query other) : entryPairs name query = entryPairs name other := by
  induction respells with
  | nil => rfl
  | entry text one same _ ih =>
      simp only [entryPairs, List.filterMap_cons, entry_key_iff.2 one, entry_key_iff.2 same]
      exact congrArg _ ih
  | left text none _ ih => simpa [entryPairs, no_entry_key_iff.2 none] using ih
  | right text none _ ih => simpa [entryPairs, no_entry_key_iff.2 none] using ih

/-- What a map of pairs of texts comes to: the map that the converted pairs leave when they are put
into it in turn, or the failure of the first text that cannot be converted. -/
inductive PairsFetched (service : ConversionService) (key value : TypeDescriptor)
    (pairs : List (String × String)) :
    Option (Except DispatchError Value) → ConversionService → Prop
  | gathered {converted : List (Value × Value)} {last : ConversionService} :
      service.ConvertsAll (ConversionService.pairTexts key value pairs)
        (ConversionService.pairValues converted) last →
      Value.Gathers converted (Value.insertAll converted) →
      PairsFetched service key value pairs (some (.ok (.map (Value.insertAll converted)))) last
  | refused {error : ConvertError} {last : ConversionService} :
      service.Refuses (ConversionService.pairTexts key value pairs) error last →
      PairsFetched service key value pairs (some (.error (.conversion error))) last

theorem pairs_fetched (service : ConversionService) (key value : TypeDescriptor)
    (pairs : List (String × String)) :
    let bound := ConversionService.bindPairs key value service [] pairs
    PairsFetched service key value pairs (some (bound.1.map .map)) bound.2 := by
  rcases ConversionService.bind_pairs_in_turn key value service [] pairs with
    ⟨converted, last, converts, bound⟩ | ⟨error, last, refuses, bound⟩
  · rw [bound]
    exact .gathered converts (Value.gathers_insert_all converted)
  · rw [bound]
    exact .refused refuses

/-- What fetching a map comes to: the entries of the query, or what stands for them where there are
none. -/
inductive MapFetched (parameter : Parameter) (name : String) (key value : TypeDescriptor)
    (service : ConversionService) (query : List (String × String)) :
    Option (Except DispatchError Value) → ConversionService → Prop
  | entries {pairs : List (String × String)} {fetched : Option (Except DispatchError Value)}
      {last : ConversionService} :
      EntryFields name query pairs → pairs ≠ [] →
      PairsFetched service key value pairs fetched last →
      MapFetched parameter name key value service query fetched last
  | default {text : String} {fetched : Option (Except DispatchError Value)}
      {last : ConversionService} :
      EntryFields name query [] → parameter.default = some text →
      PairsFetched service key value (listedPairs text) fetched last →
      MapFetched parameter name key value service query fetched last
  | missing :
      EntryFields name query [] → parameter.default = none → parameter.required = true →
      MapFetched parameter name key value service query
        (some (.error (.missingParameter name .query))) service
  | empty :
      EntryFields name query [] → parameter.default = none → parameter.required = false →
      MapFetched parameter name key value service query (some (.ok (.map []))) service

section

variable {State Bean : Type} {parameter : Parameter} {name : String} {key value : TypeDescriptor}

theorem fetch_map_eq (object : Bean → SharedObject) (exchange : Exchange State)
    (service : ConversionService) (container : Container Bean) (fallback : Fallback) :
    (Fetcher.map name key value fallback).fetch object exchange service container =
      match Fetcher.rawPairs name fallback exchange.request.query with
      | .error error => (some (.error error), service, container)
      | .ok pairs =>
        let bound := ConversionService.bindPairs key value service [] pairs
        (some (bound.1.map .map), bound.2, container) := rfl

theorem map_fetched (object : Bean → SharedObject) (exchange : Exchange State)
    (service : ConversionService) (container : Container Bean) :
    let fetched := (Fetcher.map name key value parameter.fallback).fetch object exchange service
      container
    MapFetched parameter name key value service exchange.request.query fetched.1 fetched.2.1 ∧
      fetched.2.2 = container := by
  rw [fetch_map_eq, Fetcher.rawPairs]
  have fields := entry_fields_iff.2 (Eq.refl (entryPairs name exchange.request.query))
  cases found : entryPairs name exchange.request.query with
  | cons first rest =>
      rw [found] at fields
      exact ⟨.entries fields (List.cons_ne_nil first rest) (pairs_fetched ..), rfl⟩
  | nil =>
      rw [found] at fields
      rw [Parameter.fallback]
      cases default : parameter.default with
      | some text =>
          refine ⟨.default fields default ?_, rfl⟩
          rw [← split_default_pairs_eq]
          exact pairs_fetched ..
      | none =>
          cases required : parameter.required with
          | true => exact ⟨.missing fields default required, rfl⟩
          | false => exact ⟨.empty fields default required, rfl⟩

end

/-- The fetcher of a map that is bound to a query gives what the entries come to, or what stands for
them, and it gives the same for every request whose query spells the entries in another way or holds
other fields beside them. -/
theorem fetch_map_of_entries {State Bean : Type} {parameter : Parameter} {name : String}
    {key value : TypeDescriptor} {mapping : RouteMapping} {creation : ConversionService}
    {fetcher : Fetcher} (shape : parameter.type.kind = .map key value)
    (bound : parameter.binding = .query name)
    (created : (parameter.fetcher mapping creation).1 = .ok fetcher)
    (object : Bean → SharedObject) (exchange : Exchange State) (service : ConversionService)
    (container : Container Bean) :
    let fetched := fetcher.fetch object exchange service container
    (∀ request : Request, Respells name exchange.request.query request.query →
      fetcher.fetch object { exchange with request := request } service container = fetched) ∧
    MapFetched parameter name key value service exchange.request.query fetched.1 fetched.2.1 ∧
    fetched.2.2 = container := by
  rw [Parameter.fetcher, bound] at created
  obtain ⟨-, rfl⟩ := created_table shape created
  refine ⟨?_, map_fetched object exchange service container⟩
  intro request respells
  rw [fetch_map_eq, fetch_map_eq, Fetcher.rawPairs, Fetcher.rawPairs, respells.entry_pairs]

/-- A map is read from entries of both spellings, one of which comes twice. -/
theorem fetch_map_of_both_spellings :
    let target := TypeDescriptor.mapOf .text (.primitive .int32)
    let parameter := { Parameter.declare "limits" target with query := some "limits" }
    let mapping : RouteMapping := ⟨[⟨"/items", "/items".toList, []⟩], [], [], [], [], []⟩
    let query := [("limits:a", "1"), ("page", "4"), ("limits[b]", "2"), ("limits[a]", "3")]
    let other := [("limits[a]", "1"), ("limits[b]", "2"), ("limits:a", "3"), ("limits", "5")]
    let request (query : List (String × String)) : Request := ⟨⟨"/items", query⟩, "GET", .empty, []⟩
    let exchange := Exchange.start (request query) ()
    let service := ConversionService.standard .standard
    ∃ fetcher, (parameter.fetcher mapping service).1 = .ok fetcher ∧
      (fetcher.fetch (id : SharedObject → SharedObject)
        { exchange with request := request other } service .empty).1 =
          some (.ok (.map [(.text "a", .int 3), (.text "b", .int 2)])) := by
  intro target parameter mapping query other request exchange service
  have created : (parameter.fetcher mapping service).1 =
      .ok (.map "limits" .text (.primitive .int32) ⟨none, true⟩) := by rfl
  have colon : HoldsKey "limits" "limits:a" "a" := .inl (by decide)
  have brackets : HoldsKey "limits" "limits[a]" "a" := .inr (by decide)
  have single : HoldsKey "limits" "limits[b]" "b" := .inr (by decide)
  have respells : Respells "limits" query other :=
    .entry "1" colon brackets <| .left "4" (no_entry_key_iff.1 (by decide)) <|
      .entry "2" single single <| .entry "3" brackets colon <|
        .right "5" (no_entry_key_iff.1 (by decide)) .nil
  obtain ⟨same, -⟩ := fetch_map_of_entries rfl rfl created id exchange service .empty
  have pairs : Fetcher.rawPairs "limits" ⟨none, true⟩ query =
      .ok [("a", "1"), ("b", "2"), ("a", "3")] := rfl
  refine ⟨_, created, ?_⟩
  rw [same (request other) respells]
  simp only [fetch_map_eq, exchange, Exchange.start, request, pairs]
  rfl

end RequestDispatch
