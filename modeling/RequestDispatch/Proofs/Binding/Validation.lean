import RequestDispatch.Binding.Fetcher
import RequestDispatch.Proofs.Conversion.Separation

/-!
What the checks made when a fetcher is put together are worth when it is used. For types that keep
apart from the primitives a fetch fails to convert a text only if a type was not checked, and only
the types of session and request attributes are not.
-/

namespace RequestDispatch

def attributeTargets (target : TypeDescriptor) : List TypeDescriptor :=
  if isTextConvertible target then [target] else []

theorem mem_attribute_targets {target other : TypeDescriptor} :
    other ∈ attributeTargets target ↔ other = target ∧ isTextConvertible target = true := by
  unfold attributeTargets
  split <;> simp_all

theorem attribute_targets_simple {target other : TypeDescriptor}
    (member : other ∈ attributeTargets target) : ConversionService.isTarget other := by
  obtain ⟨rfl, converts⟩ := mem_attribute_targets.1 member
  obtain ⟨key, kind⟩ := other
  cases kind <;> first | rfl | cases converts

def Fetcher.targets : Fetcher → List TypeDescriptor
  | .scalar _ _ target _ => [target]
  | .collection _ _ _ element _ _ => [element]
  | .map _ key value _ => [key, value]
  | .pathVariable _ target => [target]
  | .session _ target => attributeTargets target
  | .requestAttribute _ target => attributeTargets target
  | .interceptSlot => []
  | .container _ _ => []

def ParameterSource.isAttribute : ParameterSource → Bool
  | .session => true
  | .requestAttribute => true
  | _ => false

namespace ConversionService

variable {base service : ConversionService} {family : TypeFamily} {target : TypeDescriptor}

theorem bind_total (recalls : base.Recalls family service) (member : family.Member target)
    (convertible : base.Convertible target) (raw : Value) :
    ∃ value after, service.bind target raw = (.ok value, after) ∧ base.Recalls family after := by
  obtain ⟨value, after, converted, recallsAfter⟩ := convert_total recalls member convertible raw
  exact ⟨value, after, by rw [bind, converted]; rfl, recallsAfter⟩

theorem bind_unfound (recalls : base.Recalls family service) (member : family.Member target)
    (simple : isTarget target) {cause : ConvertError} (failed : base.find target = .error cause)
    (text : String) : (service.bind target (.text text)).1 = .error (.conversion cause) := by
  obtain ⟨after, looked, -⟩ := lookup_recalls recalls member
  rw [failed] at looked
  obtain ⟨key, kind⟩ := target
  cases kind with
  | collection => cases simple
  | map => cases simple
  | array element => simp [bind, convert, looked, Except.mapError]
  | _ => simp [bind, convert, convertText, leadText?, looked, Except.mapError]

theorem bind_pairs_total {key value : TypeDescriptor} (recalls : base.Recalls family service)
    (keyMember : family.Member key) (keyConvertible : base.Convertible key)
    (valueMember : family.Member value) (valueConvertible : base.Convertible value)
    (entries : List (Value × Value)) (pairs : List (String × String)) :
    ∃ bound after, bindPairs key value service entries pairs = (.ok bound, after) ∧
      base.Recalls family after := by
  induction pairs generalizing service entries with
  | nil => exact ⟨entries, service, rfl, recalls⟩
  | cons pair pairs ih =>
      obtain ⟨keyText, valueText⟩ := pair
      obtain ⟨first, middle, keyBound, recallsMiddle⟩ :=
        bind_total recalls keyMember keyConvertible (.text keyText)
      obtain ⟨second, last, valueBound, recallsLast⟩ :=
        bind_total recallsMiddle valueMember valueConvertible (.text valueText)
      obtain ⟨bound, after, others, recallsAfter⟩ :=
        ih recallsLast (Value.insertEntry first second entries)
      refine ⟨bound, after, ?_, recallsAfter⟩
      rw [bindPairs, keyBound]
      dsimp only
      rw [valueBound]
      exact others

end ConversionService

namespace Fetcher

section

variable {origin : ManyValued} {name : String} {fallback : Fallback} {error : DispatchError}

theorem raw_scalar_error {target : TypeDescriptor} {found : List String}
    (failed : rawScalar origin name target fallback found = .error error) :
    error = .missingParameter name origin.source := by
  unfold rawScalar at failed
  split at failed
  · cases failed
  · cases failed
  · split at failed <;> cases failed
    rfl

theorem raw_items_error {found : List String}
    (failed : rawItems origin name fallback found = .error error) :
    error = .missingParameter name origin.source := by
  unfold rawItems at failed
  split at failed
  · cases failed
  · cases failed
  · split at failed <;> cases failed
    rfl

theorem raw_pairs_error {query : List (String × String)}
    (failed : rawPairs name fallback query = .error error) :
    error = .missingParameter name .query := by
  unfold rawPairs at failed
  split at failed
  · cases failed
  · cases failed
  · split at failed <;> cases failed
    rfl

end

/-- A fetch that was not abandoned did not fail to convert a text. -/
def Converted (fetched : Option (Except DispatchError Value)) : Prop :=
  ∀ cause, fetched ≠ some (.error (.conversion cause))

section

variable {State Bean : Type} {object : Bean → SharedObject} {exchange : Exchange State}
  {base service : ConversionService} {family : TypeFamily} {container : Container Bean}
  {fetcher : Fetcher}

theorem attribute_total (target : TypeDescriptor) (recalls : base.Recalls family service)
    (each : isTextConvertible target → family.Member target ∧ base.Convertible target)
    (held : Option Value) :
    ∃ value after, ofAttribute service target held = (.ok value, after) ∧
      base.Recalls family after := by
  unfold ofAttribute
  split
  · exact ⟨_, service, rfl, recalls⟩
  · exact ⟨_, service, rfl, recalls⟩
  · split
    · next converts =>
      obtain ⟨member, convertible⟩ := each converts
      exact ConversionService.bind_total recalls member convertible _
    · exact ⟨_, service, rfl, recalls⟩
  · exact ⟨_, service, rfl, recalls⟩

/-- A fetch converts every text if the types of its fetcher are convertible. -/
theorem fetch_converted (recalls : base.Recalls family service)
    (each : ∀ target ∈ fetcher.targets, family.Member target ∧ base.Convertible target) :
    Converted (fetcher.fetch object exchange service container).1 ∧
      base.Recalls family (fetcher.fetch object exchange service container).2.1 := by
  cases fetcher with
  | scalar origin name target fallback =>
      obtain ⟨member, convertible⟩ := each target (by simp [targets])
      simp only [fetch]
      cases found : rawScalar origin name target fallback (origin.values exchange.request name) with
      | error error =>
          rw [raw_scalar_error found]
          exact ⟨by simp [Converted], recalls⟩
      | ok raw =>
          obtain ⟨value, after, bound, recallsAfter⟩ :=
            ConversionService.bind_total recalls member convertible raw
          simp [bound, recallsAfter, Converted]
  | collection origin name kind element adapter fallback =>
      obtain ⟨member, convertible⟩ := each element (by simp [targets])
      simp only [fetch]
      cases found : rawItems origin name fallback (origin.values exchange.request name) with
      | error error =>
          rw [raw_items_error found]
          exact ⟨by simp [Converted], recalls⟩
      | ok raw =>
          obtain ⟨values, after, converted, recallsAfter⟩ := ConversionService.convert_items_total
            (fun _ item recalls => ConversionService.convert_total recalls member convertible item)
            recalls raw
          simp [converted, recallsAfter, Converted]
  | map name key value fallback =>
      obtain ⟨keyMember, keyConvertible⟩ := each key (by simp [targets])
      obtain ⟨valueMember, valueConvertible⟩ := each value (by simp [targets])
      simp only [fetch]
      cases found : rawPairs name fallback exchange.request.query with
      | error error =>
          rw [raw_pairs_error found]
          exact ⟨by simp [Converted], recalls⟩
      | ok pairs =>
          obtain ⟨bound, after, entries, recallsAfter⟩ := ConversionService.bind_pairs_total recalls
            keyMember keyConvertible valueMember valueConvertible [] pairs
          simp [entries, recallsAfter, Converted, Except.map]
  | pathVariable name target =>
      obtain ⟨member, convertible⟩ := each target (by simp [targets])
      simp only [fetch]
      cases exchange.pathVariable? name with
      | none => simp [recalls, Converted]
      | some text =>
          obtain ⟨value, after, bound, recallsAfter⟩ :=
            ConversionService.bind_total recalls member convertible (.text text)
          simp [bound, recallsAfter, Converted]
  | session name target =>
      obtain ⟨value, after, held, recallsAfter⟩ := attribute_total target recalls
        (fun converts => each target (mem_attribute_targets.2 ⟨rfl, converts⟩))
        (exchange.sessionAttribute? name)
      simp [fetch, held, recallsAfter, Converted]
  | requestAttribute name target =>
      obtain ⟨value, after, held, recallsAfter⟩ := attribute_total target recalls
        (fun converts => each target (mem_attribute_targets.2 ⟨rfl, converts⟩))
        (exchange.attribute? name)
      simp [fetch, held, recallsAfter, Converted]
  | interceptSlot => simp [fetch, recalls, Converted]
  | container type qualifier =>
      refine ⟨?_, recalls⟩
      intro cause same
      simp only [fetch] at same
      cases resolved : (container.resolve type qualifier).1 <;>
        simp [resolved, Except.mapError, Except.map] at same

end

end Fetcher

namespace Parameter

open ConversionService

variable {base creation : ConversionService} {family : TypeFamily} {parameter : Parameter}
  {fetcher : Fetcher}

theorem ensure_finds {target : TypeDescriptor} (recalls : base.Recalls family creation)
    (member : family.Member target)
    (checked : (parameter.ensure creation target).1 = .ok ()) :
    isTarget target ∧ base.Finds target ∧
      base.Recalls family (parameter.ensure creation target).2 := by
  obtain ⟨after, looked, recallsAfter⟩ := lookup_recalls recalls member
  simp only [ensure, ensureConvertible, looked] at checked ⊢
  split at checked
  · next simple =>
    rw [if_pos simple]
    refine ⟨simple, ?_, recallsAfter⟩
    cases found : base.find target with
    | ok converter => exact ⟨converter, found⟩
    | error error => simp [found, Except.map, Except.mapError] at checked
  · cases checked

/-- What is known of a fetcher of the parameter once it has been put together, and of the service
that is left behind. -/
structure Validated (parameter : Parameter) (base : ConversionService) (family : TypeFamily)
    (fetcher : Fetcher) (after : ConversionService) : Prop where
  simple : ∀ target ∈ fetcher.targets, isTarget target
  finds : parameter.binding.source.isAttribute = false → ∀ target ∈ fetcher.targets,
    base.Finds target
  recalls : base.Recalls family after

theorem ensure_validates {target : TypeDescriptor} (recalls : base.Recalls family creation)
    (own : fetcher.targets = [target])
    (members : ∀ other ∈ fetcher.targets, family.Member other)
    (checked : (parameter.ensure creation target).1 = .ok ()) :
    parameter.Validated base family fetcher (parameter.ensure creation target).2 := by
  rw [own, List.forall_mem_singleton] at members
  obtain ⟨simple, finds, after⟩ := ensure_finds recalls members checked
  constructor
  · simpa [own] using simple
  · simpa [own] using fun _ => finds
  · exact after

theorem many_valued_validated {origin : ManyValued} {name : String}
    (recalls : base.Recalls family creation)
    (created : (parameter.manyValuedFetcher creation origin name).1 = .ok fetcher)
    (members : ∀ target ∈ fetcher.targets, family.Member target) :
    parameter.Validated base family fetcher
      (parameter.manyValuedFetcher creation origin name).2 := by
  unfold manyValuedFetcher at created ⊢
  split at created
  · next kind element shape =>
    obtain ⟨⟨⟩, checked, made⟩ := bind_eq_ok.1 created
    obtain ⟨adapter, -, same⟩ := bind_eq_ok.1 made
    cases same
    exact ensure_validates recalls rfl members checked
  · next key value shape =>
    -- The values are checked with what the check of the keys has left behind.
    split at created
    · cases created
    · next _ middle checked =>
      obtain ⟨⟨⟩, valueChecked, same⟩ := map_eq_ok.1 created
      cases same
      simp only [Fetcher.targets, List.forall_mem_cons] at members
      have keyChecked : (parameter.ensure creation key).1 = .ok () := by rw [checked]
      obtain ⟨keySimple, keyFinds, keyAfter⟩ := ensure_finds recalls members.1 keyChecked
      rw [checked] at keyAfter
      obtain ⟨valueSimple, valueFinds, valueAfter⟩ :=
        ensure_finds keyAfter members.2.1 valueChecked
      constructor
      · simp [Fetcher.targets, keySimple, valueSimple]
      · simp [Fetcher.targets, keyFinds, valueFinds]
      · exact valueAfter
  · obtain ⟨⟨⟩, checked, same⟩ := map_eq_ok.1 created
    cases same
    exact ensure_validates recalls rfl members checked

theorem attribute_validated {target : TypeDescriptor} (recalls : base.Recalls family creation)
    (unchecked : parameter.binding.source.isAttribute = true)
    (own : fetcher.targets = attributeTargets target) :
    parameter.Validated base family fetcher creation := by
  constructor
  · intro other member
    rw [own] at member
    exact attribute_targets_simple member
  · intro checked
    rw [unchecked] at checked
    cases checked
  · exact recalls

theorem fetcher_validated {mapping : RouteMapping} (recalls : base.Recalls family creation)
    (created : (parameter.fetcher mapping creation).1 = .ok fetcher)
    (members : ∀ target ∈ fetcher.targets, family.Member target) :
    parameter.Validated base family fetcher (parameter.fetcher mapping creation).2 := by
  unfold Parameter.fetcher at created ⊢
  split at created
  · exact many_valued_validated recalls created members
  · exact many_valued_validated recalls created members
  · split at created
    · next declared =>
      rw [if_pos declared]
      obtain ⟨⟨⟩, checked, same⟩ := map_eq_ok.1 created
      cases same
      exact ensure_validates recalls rfl members checked
    · cases created
  · next name bound =>
    cases created
    exact attribute_validated recalls (by rw [bound]; rfl) rfl
  · next name bound =>
    cases created
    exact attribute_validated recalls (by rw [bound]; rfl) rfl
  · cases created
    exact ⟨by simp [Fetcher.targets], by simp [Fetcher.targets], recalls⟩
  · cases created
    exact ⟨by simp [Fetcher.targets], by simp [Fetcher.targets], recalls⟩

end Parameter

namespace Fetcher

open ConversionService

variable {base : ConversionService} {family : TypeFamily} {fetcher : Fetcher}

/-- No fetch fails to convert a text, and what is remembered on the way keeps it so. -/
def Converts (base : ConversionService) (family : TypeFamily) (fetcher : Fetcher) : Prop :=
  ∀ {State Bean : Type} (object : Bean → SharedObject) (exchange : Exchange State)
    (service : ConversionService) (container : Container Bean), base.Recalls family service →
    Converted (fetcher.fetch object exchange service container).1 ∧
      base.Recalls family (fetcher.fetch object exchange service container).2.1

theorem attribute_finds {service : ConversionService} {target : TypeDescriptor}
    (recalls : base.Recalls family service)
    (members : ∀ other ∈ attributeTargets target, family.Member other)
    (converted : Converted (some (ofAttribute service target (some (.text ""))).1)) :
    ∀ other ∈ attributeTargets target, base.Finds other := by
  intro other member
  have simple := attribute_targets_simple member
  have inFamily := members other member
  obtain ⟨rfl, converts⟩ := mem_attribute_targets.1 member
  cases found : base.find other with
  | ok converter => exact ⟨converter, found⟩
  | error cause =>
      rw [ofAttribute, if_pos converts, bind_unfound recalls inFamily simple found] at converted
      exact absurd rfl (converted cause)

end Fetcher

section

open ConversionService

variable {hierarchy : TypeHierarchy} {family : TypeFamily} {parameter : Parameter}
  {mapping : RouteMapping} {creation : ConversionService} {fetcher : Fetcher}

theorem finds_of_converts (recalls : (standard hierarchy).Recalls family creation)
    (created : (parameter.fetcher mapping creation).1 = .ok fetcher)
    (members : ∀ target ∈ fetcher.targets, family.Member target)
    (converts : fetcher.Converts (standard hierarchy) family) :
    ∀ target ∈ fetcher.targets, (standard hierarchy).Finds target := by
  have validated := Parameter.fetcher_validated recalls created members
  let request : Request := ⟨⟨"/", []⟩, "GET", .empty, []⟩
  let plain : Exchange Unit := .start request ()
  cases bound : parameter.binding with
  | session name =>
      simp only [Parameter.fetcher, bound] at created
      cases created
      let exchange := { plain with session := some ⟨"", [(name, .text "")], false⟩ }
      obtain ⟨converted, -⟩ := converts (id : SharedObject → SharedObject) exchange creation
        .empty recalls
      have held : exchange.sessionAttribute? name = some (.text "") := by
        simp [exchange, Exchange.sessionAttribute?, Entries.get?]
      simp only [Fetcher.fetch, held] at converted
      exact Fetcher.attribute_finds recalls members converted
  | requestAttribute name =>
      simp only [Parameter.fetcher, bound] at created
      cases created
      let exchange := { plain with attributes := [(name, .text "")] }
      obtain ⟨converted, -⟩ := converts (id : SharedObject → SharedObject) exchange creation
        .empty recalls
      have held : exchange.attribute? name = some (.text "") := by
        simp [exchange, Exchange.attribute?, Entries.get?]
      simp only [Fetcher.fetch, held] at converted
      exact Fetcher.attribute_finds recalls members converted
  | _ => exact validated.finds (by rw [bound]; rfl)

/-- A fetcher that could be put together never fails to convert a text exactly if its types have
converters, which is checked for every source but the attributes of the session and the request. -/
theorem converts_iff_finds (recalls : (standard hierarchy).Recalls family creation)
    (created : (parameter.fetcher mapping creation).1 = .ok fetcher)
    (members : ∀ target ∈ fetcher.targets,
      family.Member target ∧ hierarchy.Separates target) :
    (fetcher.Converts (standard hierarchy) family ↔
      ∀ target ∈ fetcher.targets, (standard hierarchy).Finds target) ∧
      (parameter.binding.source.isAttribute = false →
        fetcher.Converts (standard hierarchy) family) ∧
      (standard hierarchy).Recalls family (parameter.fetcher mapping creation).2 := by
  have inFamily := fun target member => (members target member).1
  have validated := Parameter.fetcher_validated recalls created inFamily
  have sufficient (finds : ∀ target ∈ fetcher.targets, (standard hierarchy).Finds target) :
      fetcher.Converts (standard hierarchy) family := by
    intro State Bean object exchange service container recalls
    apply Fetcher.fetch_converted recalls
    intro target member
    refine ⟨inFamily target member, ?_⟩
    exact convertible_of_finds (standard_hasBuiltIn hierarchy) (validated.simple target member)
      (members target member).2 (finds target member)
  exact ⟨⟨finds_of_converts recalls created inFamily, sufficient⟩,
    fun source => sufficient (validated.finds source), validated.recalls⟩

/-- A header with several values is bound to an array of texts. -/
theorem header_texts_convert :
    let element := TypeDescriptor.text
    let target := TypeDescriptor.arrayOf element
    let family := TypeFamily.ofArray element rfl
    let parameter := { Parameter.declare "tags" target with header := some "x-tag" }
    let mapping : RouteMapping := ⟨[⟨"/items", "/items".toList, []⟩], [], [], [], [], []⟩
    let creation := ConversionService.standard .standard
    ∃ fetcher, creation.Recalls family creation ∧
      (parameter.fetcher mapping creation).1 = .ok fetcher ∧
      (∀ other ∈ fetcher.targets, family.Member other ∧ TypeHierarchy.standard.Separates other) ∧
      fetcher.Converts creation family := by
  intro element target family parameter mapping creation
  have recalls : creation.Recalls family creation := recalls_self creation family rfl
  have created : (parameter.fetcher mapping creation).1 =
      .ok (.scalar .header "x-tag" target ⟨none, true⟩) := rfl
  have apart : TypeHierarchy.standard.Apart .text := by
    intro primitive
    cases primitive <;> decide +kernel
  have members : ∀ other ∈ [target], family.Member other ∧
      TypeHierarchy.standard.Separates other := by
    intro other member
    rw [List.mem_singleton.1 member]
    exact ⟨.inl rfl, rfl, rfl, apart⟩
  exact ⟨_, recalls, created, members, (converts_iff_finds recalls created members).2.1 rfl⟩

/-- An array of numbers cannot be converted to, and yet it may be the type of an attribute of the
session: the fetch fails when the attribute is a text. -/
theorem session_array_unconvertible :
    let target := TypeDescriptor.arrayOf (.primitive .int32)
    let parameter := { Parameter.declare "ids" target with session := some "ids" }
    let mapping : RouteMapping := ⟨[⟨"/items", "/items".toList, []⟩], [], [], [], [], []⟩
    let service := ConversionService.standard .standard
    let request : Request := ⟨⟨"/items", []⟩, "GET", .empty, []⟩
    let exchange : Exchange Unit :=
      { Exchange.start request () with session := some ⟨"s", [("ids", .text "1")], true⟩ }
    ∃ fetcher, (parameter.fetcher mapping service).1 = .ok fetcher ∧
      (fetcher.fetch (id : SharedObject → SharedObject) exchange service .empty).1 =
        some (.error (.conversion (.primitiveArray ⟨"i32"⟩))) := by
  exact ⟨_, rfl, rfl⟩

/-- The root of all types is found by the converter of truth values, which does not accept it: the
declaration passes the check and no text is ever converted. -/
theorem root_passes_check_unconvertible :
    let target := TypeDescriptor.object .object
    let parameter := { Parameter.declare "it" target with query := some "it" }
    let mapping : RouteMapping := ⟨[⟨"/items", "/items".toList, []⟩], [], [], [], [], []⟩
    let service := ConversionService.standard .standard
    let request : Request := ⟨⟨"/items", [("it", "1")]⟩, "GET", .empty, []⟩
    ∃ fetcher, (parameter.fetcher mapping service).1 = .ok fetcher ∧
      (fetcher.fetch (id : SharedObject → SharedObject) (Exchange.start request ()) service
        .empty).1 = some (.error (.conversion (.notConvertible .object))) := by
  exact ⟨_, rfl, rfl⟩

end

end RequestDispatch
