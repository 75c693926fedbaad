import RequestDispatch.Binding.Fetcher
import RequestDispatch.Proofs.Conversion.BuiltIn
import RequestDispatch.Proofs.Route.Mapping

/-!
Parameters of native types. With the built-in converters what is fetched for a parameter can be
read as the type that the parameter was declared for, whatever texts a request holds. The main
statement is `fetch_is_typed`.
-/

namespace RequestDispatch

open NativeType

namespace ConversionService

variable {service : ConversionService}

theorem bind_registered (service : ConversionService) (target : TypeDescriptor) (raw : Value) :
    (service.bind target raw).2.registered = service.registered := convert_registered ..

theorem bind_text_reads (standard : service.HasBuiltIn) {type : NativeType}
    (scalar : type.IsScalar) {target : TypeDescriptor} (described : type.descriptor? = some target)
    (raw : String) :
    ∃ value, (service.bind target (.text raw)).1 = .ok value ∧ type.Reads value := by
  obtain ⟨value, converted, reads⟩ := convert_text_reads standard scalar described raw
  refine ⟨value, ?_, reads⟩
  change (service.convert target (.text raw)).1.mapError _ = _
  rw [converted]
  rfl

theorem bind_null_reads (service : ConversionService) {type : NativeType}
    (scalar : type.IsScalar) {target : TypeDescriptor}
    (described : type.descriptor? = some target) :
    ∃ value, (service.bind target .null).1 = .ok value ∧
      (type.Reads value ∨ type = .text ∧ value = .null) := by
  obtain ⟨value, converted, reads⟩ := convert_null_reads service scalar described
  refine ⟨value, ?_, reads⟩
  change (service.convert target .null).1.mapError _ = _
  rw [converted]
  rfl

theorem insert_entry_keeps {keeps : Value → Prop} {key value : Value}
    {entries : List (Value × Value)} (own : keeps value) (each : ∀ entry ∈ entries, keeps entry.2) :
    ∀ entry ∈ Value.insertEntry key value entries, keeps entry.2 := by
  induction entries with
  | nil => simpa [Value.insertEntry] using own
  | cons entry entries ih =>
      simp only [List.forall_mem_cons] at each
      rw [Value.insertEntry]
      split
      · exact List.forall_mem_cons.2 ⟨own, each.2⟩
      · exact List.forall_mem_cons.2 ⟨each.1, ih each.2⟩

theorem bind_pairs_read (standard : service.HasBuiltIn) {type : NativeType}
    (scalar : type.IsScalar) {target : TypeDescriptor} (described : type.descriptor? = some target)
    {entries : List (Value × Value)} (each : ∀ entry ∈ entries, type.Reads entry.2)
    (pairs : List (String × String)) :
    ∃ bound, (bindPairs .text target service entries pairs).1 = .ok bound ∧
      ∀ entry ∈ bound, type.Reads entry.2 := by
  induction pairs generalizing service entries with
  | nil => exact ⟨entries, rfl, each⟩
  | cons pair pairs ih =>
      obtain ⟨keyText, valueText⟩ := pair
      obtain ⟨key, keyBound, -⟩ := bind_text_reads standard .text rfl keyText
      have afterKey := (bind_registered service .text (.text keyText)).trans standard
      rw [bindPairs]
      generalize service.bind .text (.text keyText) = step at keyBound afterKey
      obtain ⟨result, middle⟩ := step
      cases keyBound
      dsimp only at afterKey ⊢
      obtain ⟨value, valueBound, reads⟩ := bind_text_reads afterKey scalar described valueText
      have afterValue := (bind_registered middle target (.text valueText)).trans afterKey
      generalize middle.bind target (.text valueText) = step at valueBound afterValue
      obtain ⟨result, last⟩ := step
      cases valueBound
      exact ih afterValue (insert_entry_keeps reads each)

theorem bind_pairs_registered (key value : TypeDescriptor) (service : ConversionService)
    (entries : List (Value × Value)) (pairs : List (String × String)) :
    (bindPairs key value service entries pairs).2.registered = service.registered := by
  fun_induction bindPairs key value service entries pairs with
  | case1 => rfl
  | case2 service _ keyText _ _ _ _ bound => rw [← bind_registered service key, bound]
  | case3 service _ keyText valueText _ _ middle bound _ _ failed =>
      rw [← bind_registered service key, bound, ← bind_registered middle value, failed]
  | case4 service _ keyText valueText _ _ middle bound _ _ held ih =>
      rw [ih, ← bind_registered service key, bound, ← bind_registered middle value, held]

end ConversionService

namespace Fetcher

variable {State Bean : Type}

theorem attribute_registered (service : ConversionService) (target : TypeDescriptor)
    (held : Option Value) :
    (ofAttribute service target held).2.registered = service.registered := by
  unfold ofAttribute
  split
  · rfl
  · rfl
  · split
    · exact ConversionService.bind_registered ..
    · rfl
  · rfl

theorem fetch_registered (object : Bean → SharedObject) (exchange : Exchange State)
    (service : ConversionService) (container : Container Bean) (fetcher : Fetcher) :
    (fetcher.fetch object exchange service container).2.1.registered = service.registered := by
  cases fetcher with
  | scalar origin name target fallback =>
      simp only [fetch]
      split
      · rfl
      · exact ConversionService.bind_registered ..
  | collection origin name kind element adapter fallback =>
      simp only [fetch]
      split
      · rfl
      · exact ConversionService.convert_items_registered
          (fun service item => ConversionService.convert_registered service element item) ..
  | map name key value fallback =>
      simp only [fetch]
      split
      · rfl
      · exact ConversionService.bind_pairs_registered ..
  | pathVariable name target =>
      simp only [fetch]
      split
      · rfl
      · exact ConversionService.bind_registered ..
  | session name target => exact attribute_registered ..
  | requestAttribute name target => exact attribute_registered ..
  | interceptSlot => rfl
  | container type qualifier => rfl

end Fetcher

/-- No value of the parameter is in a request that is routed to its method. -/
def Parameter.Absent (parameter : Parameter) (request : Request) : Prop :=
  match parameter.binding, parameter.type.kind with
  | .query name, .map _ _ => entryPairs name request.query = []
  | .query name, _ => request.queryParameters name = []
  | .header name, _ => request.headerValues name = []
  | _, _ => False

/-- What may come of fetching a parameter of a native type: a failure where a required value is
absent, a value that the type reads, or null where plain text is absent and not required. -/
inductive Fetched (type : NativeType) (parameter : Parameter) (request : Request) :
    Option (Except DispatchError Value) → Prop
  | missing {name : String} :
      parameter.Absent request → parameter.required = true → parameter.default = none →
        parameter.binding.name? = some name →
        Fetched type parameter request
          (some (.error (.missingParameter name parameter.binding.source)))
  | value {value : Value} :
      type.Reads value → Fetched type parameter request (some (.ok value))
  | absentText :
      type = .text → parameter.Absent request → parameter.required = false →
        parameter.default = none → Fetched type parameter request (some (.ok .null))

theorem Fetched.reads_present {type : NativeType} {parameter : Parameter} {request : Request}
    {fetched : Option (Except DispatchError Value)}
    (typed : Fetched type parameter request fetched) (present : ¬parameter.Absent request) :
    ∃ value native, fetched = some (.ok value) ∧ type.read value = .ok native := by
  cases typed with
  | missing absent => exact absurd absent present
  | value reads =>
      obtain ⟨native, read⟩ := reads
      exact ⟨_, native, rfl, read⟩
  | absentText _ absent => exact absurd absent present

def ManyValued.binding : ManyValued → String → Binding
  | .query, name => .query name
  | .header, name => .header name

section

variable {type element : NativeType} {parameter : Parameter} {target : TypeDescriptor}

theorem scalar_kind (scalar : type.IsScalar) (described : type.descriptor? = some target) :
    target.kind = .text ∨ (∃ primitive, target.kind = .primitive primitive) ∨
      ∃ primitive, target.kind = .boxed primitive := by
  cases scalar <;> cases described
  · exact .inr (.inl ⟨_, rfl⟩)
  · exact .inl rfl
  · exact .inr (.inr ⟨_, rfl⟩)
  · exact .inl rfl

theorem sequence_kind {form : SequenceForm} (notSlice : form ≠ .slice)
    (described : (NativeType.sequence form element).descriptor? = some target) :
    ∃ kind item, form.collectionKind? = some kind ∧ element.descriptor? = some item ∧
      target.kind = .collection kind item := by
  simp only [descriptor?, Option.bind_eq_bind, Option.bind_eq_some_iff] at described
  obtain ⟨item, itemDescribed, same⟩ := described
  cases form with
  | slice => exact absurd rfl notSlice
  | _ =>
      cases same
      exact ⟨_, item, rfl, itemDescribed, rfl⟩

theorem table_kind {form : TableForm}
    (described : (NativeType.table form .text element).descriptor? = some target) :
    ∃ item, element.descriptor? = some item ∧ target.kind = .map .text item := by
  simp only [descriptor?, Option.bind_eq_bind, Option.bind_eq_some_iff] at described
  obtain ⟨key, keyDescribed, item, itemDescribed, same⟩ := described
  cases keyDescribed
  cases same
  exact ⟨item, itemDescribed, rfl⟩

variable {origin : ManyValued} {name : String} {creation : ConversionService} {fetcher : Fetcher}

theorem ensure_compound (creation : ConversionService)
    (compound : ConversionService.isTarget target = false) :
    (parameter.ensure creation target).1 =
      .error (.unconvertible parameter.name (.notConvertible target.key)) := by
  simp [Parameter.ensure, ConversionService.ensureConvertible, compound, Except.mapError]

theorem created_scalar (scalar : type.IsScalar) (described : type.descriptor? = some parameter.type)
    (created : (parameter.manyValuedFetcher creation origin name).1 = .ok fetcher) :
    fetcher = .scalar origin name parameter.type parameter.fallback := by
  have shape := scalar_kind scalar described
  unfold Parameter.manyValuedFetcher at created
  split at created
  · simp_all
  · simp_all
  · obtain ⟨_, -, rfl⟩ := map_eq_ok.1 created
    rfl

theorem created_collection {kind : CollectionKind} {item : TypeDescriptor}
    (shape : parameter.type.kind = .collection kind item)
    (standard : ∀ key, kind ≠ .custom key)
    (created : (parameter.manyValuedFetcher creation origin name).1 = .ok fetcher) :
    fetcher = .collection origin name kind item none parameter.fallback := by
  have plain (service : ConversionService) : parameter.adapterFor service kind = .ok none := by
    cases kind with
    | custom key => exact absurd rfl (standard key)
    | _ => rfl
  simp only [Parameter.manyValuedFetcher, shape, plain] at created
  obtain ⟨_, -, made⟩ := bind_eq_ok.1 created
  cases made
  rfl

theorem created_sequence {kind : CollectionKind} {item : TypeDescriptor}
    (shape : parameter.type.kind = .collection kind item) {form : SequenceForm}
    (standard : form.collectionKind? = some kind)
    (created : (parameter.manyValuedFetcher creation origin name).1 = .ok fetcher) :
    fetcher = .collection origin name kind item none parameter.fallback := by
  refine created_collection shape ?_ created
  rintro key rfl
  cases form <;> cases standard

theorem created_table {key item : TypeDescriptor} (shape : parameter.type.kind = .map key item)
    (created : (parameter.manyValuedFetcher creation origin name).1 = .ok fetcher) :
    origin = .query ∧ fetcher = .map name key item parameter.fallback := by
  cases origin with
  | query =>
      simp only [Parameter.manyValuedFetcher, shape] at created
      split at created
      · cases created
      · obtain ⟨_, -, rfl⟩ := map_eq_ok.1 created
        exact ⟨rfl, rfl⟩
  | header =>
      simp only [Parameter.manyValuedFetcher, shape] at created
      obtain ⟨_, checked, -⟩ := map_eq_ok.1 created
      have compound : ConversionService.isTarget parameter.type = false := by
        simp [ConversionService.isTarget, TypeDescriptor.isMap, shape]
      rw [ensure_compound creation compound] at checked
      cases checked

theorem created_many (created : (parameter.manyValuedFetcher creation origin name).1 = .ok fetcher) :
    (∃ kind item adapter, parameter.type.kind = .collection kind item ∧
        fetcher = .collection origin name kind item adapter parameter.fallback) ∨
      (∃ key value, parameter.type.kind = .map key value ∧ origin = .query ∧
        fetcher = .map name key value parameter.fallback) ∨
      parameter.type.isCollection = false ∧ parameter.type.isMap = false ∧
        fetcher = .scalar origin name parameter.type parameter.fallback := by
  cases shape : parameter.type.kind with
  | collection kind item =>
      simp only [Parameter.manyValuedFetcher, shape] at created
      obtain ⟨_, -, adapted⟩ := bind_eq_ok.1 created
      obtain ⟨adapter, -, made⟩ := bind_eq_ok.1 adapted
      cases made
      exact .inl ⟨kind, item, adapter, rfl, rfl⟩
  | map key value => exact .inr (.inl ⟨key, value, rfl, created_table shape created⟩)
  | _ =>
      simp only [Parameter.manyValuedFetcher, shape] at created
      obtain ⟨_, -, rfl⟩ := map_eq_ok.1 created
      simp [TypeDescriptor.isCollection, TypeDescriptor.isMap, shape]

theorem absent_iff (bound : parameter.binding = origin.binding name)
    (notMap : parameter.type.isMap = false) (request : Request) :
    parameter.Absent request ↔ origin.values request name = [] := by
  rw [Parameter.Absent, bound]
  cases origin with
  | query =>
      cases shape : parameter.type.kind <;>
        simp_all [ManyValued.binding, ManyValued.values, TypeDescriptor.isMap]
  | header => rfl

theorem binding_missing (bound : parameter.binding = origin.binding name) :
    parameter.binding.name? = some name ∧ parameter.binding.source = origin.source := by
  cases origin <;> rw [bound] <;> exact ⟨rfl, rfl⟩

variable {State Bean : Type} (object : Bean → SharedObject) (exchange : Exchange State)
  {service : ConversionService} (container : Container Bean)

theorem fetch_scalar (standard : service.HasBuiltIn) (scalar : type.IsScalar)
    (described : type.descriptor? = some parameter.type)
    (bound : parameter.binding = origin.binding name) :
    Fetched type parameter exchange.request
      ((Fetcher.scalar origin name parameter.type parameter.fallback).fetch object exchange service
        container).1 := by
  have single : parameter.type.isArray = false ∧ parameter.type.isMap = false := by
    rcases scalar_kind scalar described with shape | ⟨_, shape⟩ | ⟨_, shape⟩ <;>
      simp [TypeDescriptor.isArray, TypeDescriptor.isMap, shape]
  have absent := absent_iff bound single.2 exchange.request
  have text (raw : String) : Fetched type parameter exchange.request
      (some (service.bind parameter.type (.text raw)).1) := by
    obtain ⟨value, converted, reads⟩ :=
      ConversionService.bind_text_reads standard scalar described raw
    rw [converted]
    exact .value reads
  simp only [Fetcher.fetch, Fetcher.rawScalar, single.1]
  cases found : origin.values exchange.request name with
  | cons first rest => exact text first
  | nil =>
      have none := absent.2 found
      cases default : parameter.fallback.default with
      | some raw => exact text raw
      | none =>
          cases required : parameter.fallback.required with
          | true =>
              have missing := binding_missing bound
              rw [← missing.2]
              exact .missing none required default missing.1
          | false =>
              obtain ⟨value, converted, reads⟩ :=
                ConversionService.bind_null_reads service scalar described
              change Fetched type parameter exchange.request
                (some (service.bind parameter.type .null).1)
              rw [converted]
              rcases reads with reads | ⟨plain, rfl⟩
              · exact .value reads
              · exact .absentText plain none required default

theorem fetch_collection (standard : service.HasBuiltIn) (scalar : element.IsScalar)
    {form : SequenceForm} {kind : CollectionKind} {item : TypeDescriptor}
    (described : element.descriptor? = some item) (formed : form.collectionKind? = some kind)
    (ordered : form = .orderedSet → element.IsOrdered)
    (shape : parameter.type.kind = .collection kind item)
    (bound : parameter.binding = origin.binding name) :
    Fetched (.sequence form element) parameter exchange.request
      ((Fetcher.collection origin name kind item none parameter.fallback).fetch object exchange
        service container).1 := by
  have notMap : parameter.type.isMap = false := by simp [TypeDescriptor.isMap, shape]
  have absent := absent_iff bound notMap exchange.request
  simp only [Fetcher.fetch, Fetcher.rawItems]
  -- Values that are found, pieces of a default and no values at all are converted alike.
  have texts (raw : List String) : ∃ items collected,
      (ConversionService.convertItems (fun service value => service.convert item value) service
          (raw.map .text)).1 = .ok items ∧
        Value.collect? kind items = some collected ∧
          (NativeType.sequence form element).Reads collected := by
    obtain ⟨items, converted, reads⟩ :=
      ConversionService.convert_texts_read standard scalar described raw
    obtain ⟨collected, built, read⟩ := collection_reads scalar formed ordered reads
    exact ⟨items, collected, converted, built, read⟩
  cases found : origin.values exchange.request name with
  | cons first rest =>
      obtain ⟨items, collected, converted, built, read⟩ := texts (first :: rest)
      simp only [converted, built, Option.map_some]
      exact .value read
  | nil =>
      cases default : parameter.fallback.default with
      | some raw =>
          obtain ⟨items, collected, converted, built, read⟩ := texts (splitDefault raw)
          simp only [converted, built, Option.map_some]
          exact .value read
      | none =>
          cases required : parameter.fallback.required with
          | true =>
              have missing := binding_missing bound
              rw [← missing.2]
              exact .missing (absent.2 found) required default missing.1
          | false =>
              obtain ⟨items, collected, converted, built, read⟩ := texts []
              rw [List.map_nil] at converted
              simp only [Bool.false_eq_true, if_false, converted, built, Option.map_some]
              exact .value read

theorem fetch_map (standard : service.HasBuiltIn) (scalar : element.IsScalar) {form : TableForm}
    {item : TypeDescriptor} (described : element.descriptor? = some item)
    (shape : parameter.type.kind = .map .text item) (bound : parameter.binding = .query name) :
    Fetched (.table form .text element) parameter exchange.request
      ((Fetcher.map name .text item parameter.fallback).fetch object exchange service
        container).1 := by
  simp only [Fetcher.fetch, Fetcher.rawPairs]
  have pairs (raw : List (String × String)) :
      Fetched (.table form .text element) parameter exchange.request
        (some ((ConversionService.bindPairs .text item service [] raw).1.map .map)) := by
    have none : ∀ entry ∈ ([] : List (Value × Value)), element.Reads entry.2 := by simp
    obtain ⟨entries, converted, reads⟩ :=
      ConversionService.bind_pairs_read standard scalar described none raw
    rw [converted]
    exact .value (reads_table form reads)
  cases found : entryPairs name exchange.request.query with
  | cons first rest => exact pairs (first :: rest)
  | nil =>
      cases default : parameter.fallback.default with
      | some raw => exact pairs (splitDefaultPairs raw)
      | none =>
          cases required : parameter.fallback.required with
          | true =>
              have absent : parameter.Absent exchange.request := by
                rw [Parameter.Absent, bound, shape]
                exact found
              have source : parameter.binding.source = .query := by rw [bound]; rfl
              rw [if_pos rfl, ← source]
              exact .missing absent required default (by rw [bound]; rfl)
          | false => exact pairs []

theorem fetch_path_variable (standard : service.HasBuiltIn) (scalar : type.IsScalar)
    (described : type.descriptor? = some parameter.type) {text : String}
    (bound : exchange.pathVariable? name = some text) :
    Fetched type parameter exchange.request
      ((Fetcher.pathVariable name parameter.type).fetch object exchange service container).1 := by
  obtain ⟨value, converted, reads⟩ :=
    ConversionService.bind_text_reads standard scalar described text
  simp only [Fetcher.fetch, bound, converted]
  exact .value reads

theorem fetch_many (standard : service.HasBuiltIn) (bindable : type.IsBindable)
    (described : type.descriptor? = some parameter.type)
    (bound : parameter.binding = origin.binding name)
    (created : (parameter.manyValuedFetcher creation origin name).1 = .ok fetcher) :
    Fetched type parameter exchange.request
      (fetcher.fetch object exchange service container).1 := by
  cases bindable with
  | scalar scalar =>
      rw [created_scalar scalar described created]
      exact fetch_scalar object exchange container standard scalar described bound
  | sequence scalar notSlice ordered =>
      obtain ⟨kind, item, formed, itemDescribed, shape⟩ := sequence_kind notSlice described
      rw [created_sequence shape formed created]
      exact fetch_collection object exchange container standard scalar itemDescribed formed ordered
        shape bound
  | table scalar =>
      obtain ⟨item, itemDescribed, shape⟩ := table_kind described
      obtain ⟨rfl, rfl⟩ := created_table shape created
      exact fetch_map object exchange container standard scalar itemDescribed shape bound

theorem created_for_variable {mapping : RouteMapping}
    (bound : parameter.binding = .pathVariable name)
    (created : (parameter.fetcher mapping creation).1 = .ok fetcher) :
    mapping.declaresVariable name = true ∧
      (∃ checked, (parameter.ensure creation parameter.type).1 = .ok checked) ∧
      fetcher = .pathVariable name parameter.type := by
  simp only [Parameter.fetcher, bound] at created
  split at created
  · next declared =>
    obtain ⟨checked, ensured, rfl⟩ := map_eq_ok.1 created
    exact ⟨declared, ⟨checked, ensured⟩, rfl⟩
  · cases created

theorem created_path_variable {mapping : RouteMapping} (bindable : type.IsBindable)
    (described : type.descriptor? = some parameter.type)
    (bound : parameter.binding = .pathVariable name)
    (created : (parameter.fetcher mapping creation).1 = .ok fetcher) :
    mapping.declaresVariable name = true ∧ type.IsScalar ∧
      fetcher = .pathVariable name parameter.type := by
  obtain ⟨declared, ⟨_, checked⟩, same⟩ := created_for_variable bound created
  refine ⟨declared, ?_, same⟩
  have target : ConversionService.isTarget parameter.type = true := by
    by_contra compound
    rw [ensure_compound creation (by simpa using compound)] at checked
    cases checked
  cases bindable with
  | scalar scalar => exact scalar
  | sequence _ notSlice =>
      obtain ⟨kind, item, -, -, shape⟩ := sequence_kind notSlice described
      simp [ConversionService.isTarget, TypeDescriptor.isCollection, shape] at target
  | table =>
      obtain ⟨item, -, shape⟩ := table_kind described
      simp [ConversionService.isTarget, TypeDescriptor.isMap, shape] at target

theorem pushed_path_variable (bindings : PathBindings) :
    (exchange.pushBindings bindings).pathVariable? name = bindings.lookup name := by
  simp [Exchange.pushBindings, Exchange.pathVariable?, BindingStack.push, BindingStack.get?]

end

namespace Parameter

theorem ensure_registered (parameter : Parameter) (service : ConversionService)
    (target : TypeDescriptor) :
    (parameter.ensure service target).2.registered = service.registered := by
  simp only [ensure, ConversionService.ensureConvertible]
  split
  · exact ConversionService.lookup_registered ..
  · rfl

theorem many_valued_registered (parameter : Parameter) (service : ConversionService)
    (origin : ManyValued) (name : String) :
    (parameter.manyValuedFetcher service origin name).2.registered = service.registered := by
  unfold manyValuedFetcher
  split
  · next item _ => exact ensure_registered parameter service item
  · next key value _ =>
    have first := ensure_registered parameter service key
    split
    · next checked => rw [← first, checked]
    · next checked =>
      rw [checked] at first
      exact (ensure_registered parameter _ value).trans first
  · exact ensure_registered parameter service parameter.type

theorem fetcher_registered (parameter : Parameter) (mapping : RouteMapping)
    (service : ConversionService) :
    (parameter.fetcher mapping service).2.registered = service.registered := by
  unfold fetcher
  split
  · exact many_valued_registered ..
  · exact many_valued_registered ..
  · split
    · exact ensure_registered parameter service parameter.type
    · rfl
  · rfl
  · rfl
  · rfl
  · rfl

end Parameter

/-- The fetcher of a parameter that is bound to a query, a header or a path variable gives what the
native type of the parameter reads, unless a required value is missing or plain text that is not
required is absent. It is never abandoned, and later fetches find the same converters. -/
theorem fetch_is_typed {State Bean : Type} {type : NativeType} {parameter : Parameter}
    {mapping : RouteMapping} {creation service : ConversionService} {fetcher : Fetcher}
    {object : Bean → SharedObject} {exchange : Exchange State} {container : Container Bean}
    {path : String} {found : PathMatch} {confidence : Nat}
    (bindable : type.IsBindable) (described : type.descriptor? = some parameter.type)
    (source : parameter.binding.source ∈ [.query, .header, .path])
    (created : (parameter.fetcher mapping creation).1 = .ok fetcher)
    (standard : service.HasBuiltIn)
    (routed : mapping.test exchange.request path = some (found, confidence)) :
    let fetched := fetcher.fetch object (exchange.pushBindings found.bindings) service container
    Fetched type parameter exchange.request fetched.1 ∧ fetched.2.1.HasBuiltIn ∧
      (creation.HasBuiltIn → (parameter.fetcher mapping creation).2.HasBuiltIn) := by
  refine ⟨?_, (Fetcher.fetch_registered ..).trans standard,
    fun before => (Parameter.fetcher_registered ..).trans before⟩
  cases bound : parameter.binding with
  | query name =>
      have many : parameter.binding = ManyValued.binding .query name := bound
      rw [Parameter.fetcher, bound] at created
      exact fetch_many object (exchange.pushBindings found.bindings) container standard bindable
        described many created
  | header name =>
      have many : parameter.binding = ManyValued.binding .header name := bound
      rw [Parameter.fetcher, bound] at created
      exact fetch_many object (exchange.pushBindings found.bindings) container standard bindable
        described many created
  | pathVariable name =>
      obtain ⟨declared, scalar, rfl⟩ := created_path_variable bindable described bound created
      obtain ⟨text, known⟩ := RouteMapping.test_binds routed declared
      rw [← pushed_path_variable exchange] at known
      exact fetch_path_variable object (exchange.pushBindings found.bindings) container standard
        scalar described known
  | _ =>
      rw [bound] at source
      simp [Binding.source] at source

/-- An ordered set of integers is read from texts of which one is no number. -/
theorem fetch_set_of_texts :
    let type : NativeType := .sequence .orderedSet (.scalar .int32)
    let target := (TypeDescriptor.collectionOf .treeSet (.primitive .int32)).withKey ⟨type.name⟩
    let parameter := { Parameter.declare "ids" target with query := some "ids" }
    let mapping : RouteMapping := ⟨[⟨"/items", "/items".toList, []⟩], [], [], [], [], []⟩
    let request : Request :=
      ⟨⟨"/items", [("ids", "7"), ("ids", "x"), ("ids", "-3")]⟩, "GET", .empty, []⟩
    let found : PathMatch := ⟨[], []⟩
    let exchange : Exchange Unit := (Exchange.start request ()).pushBindings found.bindings
    let service := ConversionService.standard .standard
    ∃ fetcher, (parameter.fetcher mapping service).1 = .ok fetcher ∧ service.HasBuiltIn ∧
      mapping.test request "/items" = some (found, 0) ∧
      ∃ value native, (fetcher.fetch (id : SharedObject → SharedObject) exchange service .empty).1 =
          some (.ok value) ∧ type.read value = .ok native := by
  intro type target parameter mapping request found exchange service
  have created : (parameter.fetcher mapping service).1 =
      .ok (.collection .query "ids" .treeSet (.primitive .int32) none ⟨none, true⟩) := by rfl
  have standard : service.HasBuiltIn := ConversionService.standard_hasBuiltIn .standard
  have routed : mapping.test request "/items" = some (found, 0) := by decide +kernel
  refine ⟨_, created, standard, routed, ?_⟩
  have bindable : type.IsBindable := .sequence (.plain .int32) (by decide) fun _ => rfl
  obtain ⟨typed, -⟩ := @fetch_is_typed Unit SharedObject type parameter mapping service service _ id
    (Exchange.start request ()) .empty "/items" found 0 bindable rfl (by decide) created standard
    routed
  have present : request.queryParameters "ids" ≠ [] := by decide +kernel
  exact typed.reads_present present

end RequestDispatch
