import RequestDispatch.Proofs.Binding.Defaults
import RequestDispatch.Proofs.Binding.Validation
import RequestDispatch.Proofs.Conversion.Scalars

/-!
Defaults of parameters that hold one value. In the query and among the headers the default stands
for a value that is missing: a request without a value is fetched from like one that carries the
text of the default. Attributes of the session and of the request know no defaults: what is missing
there is null, or the zero of a primitive, whatever default is declared (`fetch_fallback`).
-/

namespace RequestDispatch

def TypeDescriptor.isPlain (type : TypeDescriptor) : Bool :=
  match type.kind with
  | .primitive _ | .boxed _ | .text | .enumeration _ => true
  | _ => false

namespace Binding

variable {State : Type}

/-- No value is there under the name; null is none. -/
def Lacks (exchange : Exchange State) : Binding → Prop
  | .query name => exchange.request.queryParameters name = []
  | .header name => exchange.request.headerValues name = []
  | .session name =>
    exchange.sessionAttribute? name = none ∨ exchange.sessionAttribute? name = some .null
  | .requestAttribute name => exchange.attribute? name = none ∨ exchange.attribute? name = some .null
  | _ => False

def Carries (exchange : Exchange State) (text : String) : Binding → Prop
  | .query name => (exchange.request.queryParameters name).head? = some text
  | .header name =>
    IsVisible text ∧ (exchange.request.headers.values name).head? = some (Text.utf8Bytes text)
  | .session name => exchange.sessionAttribute? name = some (.text text)
  | .requestAttribute name => exchange.attribute? name = some (.text text)
  | _ => False

end Binding

theorem header_values_head {request : Request} {name text : String} (visible : IsVisible text)
    (first : (request.headers.values name).head? = some (Text.utf8Bytes text)) :
    (request.headerValues name).head? = some text := by
  obtain ⟨rest, held⟩ := List.head?_eq_some_iff.1 first
  rw [Request.headerValues, Headers.texts, held,
    List.filterMap_cons_some (readable_of_visible visible)]
  rfl

section

variable {State Bean : Type} {object : Bean → SharedObject} {exchange : Exchange State}
  {service : ConversionService} {container : Container Bean} {origin : ManyValued}
  {name text : String} {target : TypeDescriptor} {fallback : Fallback}

theorem fetch_text_eq (single : target.isArray = false)
    (chosen : (origin.values exchange.request name).head?.or fallback.default = some text) :
    (Fetcher.scalar origin name target fallback).fetch object exchange service container =
      (some (service.bind target (.text text)).1, (service.bind target (.text text)).2,
        container) := by
  have raw : Fetcher.rawScalar origin name target fallback
      (origin.values exchange.request name) = .ok (.text text) := by
    cases found : origin.values exchange.request name with
    | nil =>
        rw [found, List.head?_nil, Option.none_or] at chosen
        simp [Fetcher.rawScalar, chosen, single]
    | cons first rest =>
        rw [found, List.head?_cons, Option.some_or] at chosen
        cases chosen
        simp [Fetcher.rawScalar, single]
  simp only [Fetcher.fetch, raw]

theorem attribute_missing {held : Option Value} (lacks : held = none ∨ held = some .null) :
    Fetcher.ofAttribute service target held = (.ok (nullValue target), service) := by
  rcases lacks with rfl | rfl <;> rfl

theorem attribute_text (plain : target.isPlain = true) :
    Fetcher.ofAttribute service target (some (.text text)) =
      if target.kind = .text then (.ok (.text text), service)
      else service.bind target (.text text) := by
  obtain ⟨key, kind⟩ := target
  cases kind <;> first | rfl | cases plain

end

section

variable {State Bean : Type} {parameter : Parameter} {text : String} {mapping : RouteMapping}
  {creation : ConversionService} {fetcher : Fetcher} {missing given : Exchange State}

theorem plain_target {target : TypeDescriptor} (plain : target.isPlain = true) :
    target.isArray = false := by
  obtain ⟨key, kind⟩ := target
  cases kind <;> first | rfl | cases plain

theorem created_plain {origin : ManyValued} {name : String}
    (bound : parameter.binding = origin.binding name) (plain : parameter.type.isPlain = true)
    (created : (parameter.fetcher mapping creation).1 = .ok fetcher) :
    fetcher = .scalar origin name parameter.type parameter.fallback := by
  have many : (parameter.manyValuedFetcher creation origin name).1 = .ok fetcher := by
    rw [Parameter.fetcher, bound] at created
    cases origin <;> exact created
  rcases created_many many with ⟨_, _, _, shape, -⟩ | ⟨_, _, shape, -⟩ | ⟨-, -, same⟩
  · simp [TypeDescriptor.isPlain, shape] at plain
  · simp [TypeDescriptor.isPlain, shape] at plain
  · exact same

theorem bind_checked {hierarchy : TypeHierarchy} {family : TypeFamily} {service : ConversionService}
    (checked : parameter.binding.source.isAttribute = false)
    (own : fetcher.targets = [parameter.type])
    (created : (parameter.fetcher mapping creation).1 = .ok fetcher)
    (recallsCreation : (ConversionService.standard hierarchy).Recalls family creation)
    (recalls : (ConversionService.standard hierarchy).Recalls family service)
    (member : family.Member parameter.type) (separate : hierarchy.Separates parameter.type)
    (raw : Value) : ∃ value, (service.bind parameter.type raw).1 = .ok value := by
  have validated := Parameter.fetcher_validated recallsCreation created
    (by rw [own]; exact List.forall_mem_singleton.2 member)
  have target : parameter.type ∈ fetcher.targets := by simp [own]
  have convertible := ConversionService.convertible_of_finds
    (ConversionService.standard_hasBuiltIn hierarchy) (validated.simple _ target) separate
    (validated.finds checked _ target)
  obtain ⟨value, after, bound, -⟩ := ConversionService.bind_total recalls member convertible raw
  exact ⟨value, by rw [bound]⟩

/-- The default of a parameter in the query or among the headers is converted like a text that the
request carries. -/
theorem fetch_many_fallback {origin : ManyValued} {name : String}
    (bound : parameter.binding = origin.binding name) (plain : parameter.type.isPlain = true)
    (default : parameter.default = some text)
    (object : Bean → SharedObject) (service : ConversionService) (container : Container Bean)
    (lacks : parameter.binding.Lacks missing) (carries : parameter.binding.Carries given text) :
    let fetched (exchange : Exchange State) :=
      (Fetcher.scalar origin name parameter.type parameter.fallback).fetch object exchange service
        container
    let converted := service.bind parameter.type (.text text)
    fetched missing = (some converted.1, converted.2, container) ∧
      fetched given = (some converted.1, converted.2, container) := by
  intro fetched converted
  rw [bound] at lacks carries
  have single := plain_target plain
  constructor
  · have none : origin.values missing.request name = [] := by
      cases origin <;> exact lacks
    exact fetch_text_eq single (by rw [none]; exact default)
  · have first : (origin.values given.request name).head? = some text := by
      cases origin with
      | query => exact carries
      | header => exact header_values_head carries.1 carries.2
    exact fetch_text_eq single (by rw [first]; rfl)

theorem fetch_attribute_fallback (plain : parameter.type.isPlain = true)
    (held : parameter.binding.source.isAttribute = true)
    (created : (parameter.fetcher mapping creation).1 = .ok fetcher)
    (object : Bean → SharedObject) (service : ConversionService) (container : Container Bean)
    (lacks : parameter.binding.Lacks missing) (carries : parameter.binding.Carries given text) :
    let fetched (exchange : Exchange State) := fetcher.fetch object exchange service container
    let converted := service.bind parameter.type (.text text)
    fetched missing = (some (.ok (nullValue parameter.type)), service, container) ∧
      fetched given =
        if parameter.type.kind = .text then (some (.ok (.text text)), service, container)
        else (some converted.1, converted.2, container) := by
  intro fetched converted
  cases bound : parameter.binding with
  | session name =>
      simp only [Parameter.fetcher, bound] at created
      cases created
      rw [bound] at lacks carries
      refine ⟨by simp only [fetched, Fetcher.fetch, attribute_missing lacks], ?_⟩
      simp only [fetched, Fetcher.fetch]
      rw [carries, attribute_text plain]
      split <;> rfl
  | requestAttribute name =>
      simp only [Parameter.fetcher, bound] at created
      cases created
      rw [bound] at lacks carries
      refine ⟨by simp only [fetched, Fetcher.fetch, attribute_missing lacks], ?_⟩
      simp only [fetched, Fetcher.fetch]
      rw [carries, attribute_text plain]
      split <;> rfl
  | _ =>
      rw [bound] at held
      cases held

theorem Binding.Lacks.many_or_attribute {binding : Binding} (lacks : binding.Lacks missing) :
    (∃ (origin : ManyValued) (name : String), binding = origin.binding name) ∨
      binding.source.isAttribute = true := by
  cases binding with
  | query name => exact .inl ⟨.query, name, rfl⟩
  | header name => exact .inl ⟨.header, name, rfl⟩
  | session => exact .inr rfl
  | requestAttribute => exact .inr rfl
  | _ => exact lacks.elim

/-- A missing value of a parameter in the query or among the headers is fetched like the text of its
default, and with the built-in converters without an error. A missing attribute is null or the zero
of its type, whatever default is declared. -/
theorem fetch_fallback (plain : parameter.type.isPlain = true)
    (default : parameter.default = some text)
    (created : (parameter.fetcher mapping creation).1 = .ok fetcher)
    (object : Bean → SharedObject) (service : ConversionService) (container : Container Bean)
    (lacks : parameter.binding.Lacks missing) (carries : parameter.binding.Carries given text) :
    let fetched (exchange : Exchange State) := fetcher.fetch object exchange service container
    let converted := service.bind parameter.type (.text text)
    (parameter.binding.source.isAttribute = false →
      fetched missing = fetched given ∧
        fetched given = (some converted.1, converted.2, container)) ∧
    (parameter.binding.source.isAttribute = true →
      fetched missing = (some (.ok (nullValue parameter.type)), service, container) ∧
        fetched given =
          if parameter.type.kind = .text then (some (.ok (.text text)), service, container)
          else (some converted.1, converted.2, container)) ∧
    ∀ (hierarchy : TypeHierarchy) (family : TypeFamily),
      (ConversionService.standard hierarchy).Recalls family creation →
      (ConversionService.standard hierarchy).Recalls family service →
      family.Member parameter.type → hierarchy.Separates parameter.type →
        ∃ value, (fetched missing).1 = some (.ok value) := by
  intro fetched converted
  rcases lacks.many_or_attribute with ⟨origin, name, bound⟩ | held
  · have checked : parameter.binding.source.isAttribute = false := by
      rw [bound]
      cases origin <;> rfl
    obtain rfl := created_plain bound plain created
    obtain ⟨none, first⟩ := fetch_many_fallback bound plain default object service container lacks
      carries
    refine ⟨fun _ => ⟨none.trans first.symm, first⟩, fun other => ?_, ?_⟩
    · rw [checked] at other
      cases other
    · intro hierarchy family recallsCreation recalls member separate
      obtain ⟨value, made⟩ := bind_checked checked rfl created recallsCreation recalls member
        separate (.text text)
      exact ⟨value, (congrArg Prod.fst none).trans (congrArg some made)⟩
  · obtain ⟨none, first⟩ :=
      fetch_attribute_fallback plain held created object service container lacks carries
    refine ⟨fun other => ?_, fun _ => ⟨none, first⟩, ?_⟩
    · rw [held] at other
      cases other
    · intro hierarchy family _ _ _ _
      exact ⟨nullValue parameter.type, congrArg Prod.fst none⟩

/-- The least number of eight bits is the default, and the only header cannot be read. -/
theorem header_number_fallback :
    let parameter :=
      { Parameter.declare "offset" (.boxed .int8) with
        header := some "X-Offset", default := some "-128" }
    let mapping : RouteMapping := ⟨[⟨"/items", "/items".toList, []⟩], [], [], [], [], []⟩
    let request (fields : List (String × List UInt8)) : Request :=
      ⟨⟨"/items", [("X-Offset", "1")]⟩, "GET", ⟨fields⟩, []⟩
    let missing := Exchange.start (request [("x-offset", [0xFF])]) ()
    let given := Exchange.start (request [("x-offset", Text.utf8Bytes "-128")]) ()
    let service := ConversionService.standard .standard
    parameter.type.isPlain = true ∧ parameter.default = some "-128" ∧
      parameter.binding.Lacks missing ∧ parameter.binding.Carries given "-128" ∧
      ∃ fetcher, (parameter.fetcher mapping service).1 = .ok fetcher ∧
        fetcher.fetch (id : SharedObject → SharedObject) missing service .empty =
          fetcher.fetch id given service .empty ∧
        (fetcher.fetch id missing service .empty).1 = some (.ok (.int (-128))) := by
  intro parameter mapping request missing given service
  have created : (parameter.fetcher mapping service).1 =
      .ok (.scalar .header "X-Offset" (.boxed .int8) ⟨some "-128", true⟩) := by rfl
  have lacks : parameter.binding.Lacks missing := by
    change missing.request.headerValues "X-Offset" = []
    decide +kernel
  have visible : IsVisible "-128" := by
    intro character member
    have listed : "-128".toList = ['-', '1', '2', '8'] := rfl
    rw [listed] at member
    simp only [List.mem_cons, List.not_mem_nil, or_false] at member
    rcases member with rfl | rfl | rfl | rfl <;> decide
  have carries : parameter.binding.Carries given "-128" := ⟨visible, by decide +kernel⟩
  obtain ⟨same, converted⟩ := (fetch_fallback rfl rfl created (id : SharedObject → SharedObject)
    service .empty lacks carries).1 rfl
  have number : some (service.bind (.boxed .int8) (.text "-128")).1 = some (.ok (.int (-128))) := by
    rfl
  refine ⟨rfl, rfl, lacks, carries, _, created, same, ?_⟩
  exact (congrArg Prod.fst (same.trans converted)).trans number

/-- The default of an attribute of the session is passed over, and the zero of its type fetched. -/
theorem session_default_ignored :
    let parameter :=
      { Parameter.declare "n" (.primitive .int32) with session := some "n", default := some "7" }
    let mapping : RouteMapping := ⟨[⟨"/items", "/items".toList, []⟩], [], [], [], [], []⟩
    let request : Request := ⟨⟨"/items", []⟩, "GET", .empty, []⟩
    let missing : Exchange Unit := Exchange.start request ()
    let given : Exchange Unit := { missing with session := some ⟨"s", [("n", .text "7")], true⟩ }
    let service := ConversionService.standard .standard
    parameter.binding.Lacks missing ∧ parameter.binding.Carries given "7" ∧
      ∃ fetcher, (parameter.fetcher mapping service).1 = .ok fetcher ∧
        (fetcher.fetch (id : SharedObject → SharedObject) missing service .empty).1 =
          some (.ok (.int 0)) ∧
        (fetcher.fetch id given service .empty).1 = some (.ok (.int 7)) := by
  exact ⟨.inl rfl, rfl, _, rfl, rfl, rfl⟩

end

end RequestDispatch
