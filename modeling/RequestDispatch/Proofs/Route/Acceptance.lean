import RequestDispatch.Proofs.Route.Mapping
import RequestDispatch.Proofs.Route.Media

/-!
What a route accepts. The main statement is `test_iff_accepts`: a route takes a request if one of
its patterns matches the path and every kind of condition that it declares holds, and the confidence
of the match counts the kinds that are declared.
-/

namespace RequestDispatch

/-- What a condition is written as. -/
inductive Requirement.Written : String → Requirement → Prop
  | present {name : String} : '=' ∉ name.toList → Written name (.present (Text.trim name))
  | equals {name value : String} : '=' ∉ name.toList →
      Written (name ++ "=" ++ value) (.equals (Text.trim name) (Text.trim value))

/-- The condition holds if values are found so under their names. -/
def Requirement.Met (found : String → String → Prop) : Requirement → Prop
  | .present name => ∃ value, found name value
  | .equals name value => found name value

def Request.HasHeader (request : Request) (name value : String) : Prop :=
  ∃ key bytes, normalizeHeaderName? name = some key ∧ (key, bytes) ∈ request.headers.fields ∧
    readableText? bytes = some value

/-- The first value under a name in lower case, if it is readable. -/
def Request.firstHeader? (request : Request) (name : String) : Option String :=
  (request.headers.fields.lookup name).bind readableText?

/-- The media ranges that the client accepts; one that does not say so accepts everything. -/
def Request.acceptedRanges (request : Request) : List String :=
  (Text.splitOn ',' ((request.firstHeader? "accept").getD "*/*").toList).map String.ofList

namespace RouteMapping

def FirstMatch (mapping : RouteMapping) (path : String) (found : PathMatch) : Prop :=
  ∃ front pattern back, mapping.patterns = front ++ pattern :: back ∧
    pattern.match? path = some found ∧ ∀ other ∈ front, other.match? path = none

/-- Every kind of condition that the route declares holds for the request. -/
structure Accepts (mapping : RouteMapping) (request : Request) : Prop where
  method : mapping.methods = [] ∨ request.method ∈ mapping.methods
  parameters : ∀ requirement ∈ mapping.parameters,
    requirement.Met fun name value => (name, value) ∈ request.query
  headers : ∀ requirement ∈ mapping.headers, requirement.Met request.HasHeader
  consumes : mapping.consumes = [] ∨
    ∃ contentType, request.firstHeader? "content-type" = some contentType ∧
      ∃ entry ∈ mapping.consumes, MediaFits entry contentType
  produces : mapping.produces = [] ∨
    ∃ range ∈ request.acceptedRanges, ∃ entry ∈ mapping.produces, MediaFits range entry

/-- How many kinds of condition the route declares. -/
def criteria (mapping : RouteMapping) : Nat :=
  [mapping.methods.isEmpty, mapping.parameters.isEmpty, mapping.headers.isEmpty,
    mapping.consumes.isEmpty, mapping.produces.isEmpty].count false

end RouteMapping

/-- The route has what is declared, in the order of the declaration. -/
structure RouteDeclaration.Declares (declaration : RouteDeclaration) (mapping : RouteMapping) :
    Prop where
  patterns : List.Forall₂ (fun template pattern => PathPattern.compile template = .ok pattern)
    declaration.paths mapping.patterns
  methods : mapping.methods = declaration.methods
  parameters : List.Forall₂ Requirement.Written declaration.parameters mapping.parameters
  headers : List.Forall₂ Requirement.Written declaration.headers mapping.headers
  consumes : mapping.consumes = declaration.consumes
  produces : mapping.produces = declaration.produces

namespace Requirement

theorem written_parse (expression : String) : Written expression (parse expression) := by
  rw [parse]
  split
  · next name value divided =>
    obtain ⟨whole, absent⟩ := Text.splitOnce_eq_some divided
    have written : expression = String.ofList name ++ "=" ++ String.ofList value := by
      apply String.toList_injective
      simp [whole]
    nth_rewrite 1 [written]
    exact .equals (by simpa using absent)
  · next whole => exact .present (Text.splitOnce_eq_none.1 whole)

example : parse " version = 2 " = .equals "version" "2" := by decide

theorem holds_iff {lookup : String → List String} {found : String → String → Prop}
    (looks : ∀ name value, value ∈ lookup name ↔ found name value) (requirement : Requirement) :
    requirement.holds lookup = true ↔ requirement.Met found := by
  cases requirement with
  | present name =>
      simp only [holds, Met, ← looks, Bool.not_eq_true', List.isEmpty_eq_false_iff_exists_mem]
  | equals name value => simp only [holds, Met, ← looks, List.contains_iff_mem]

end Requirement

namespace Request

theorem mem_queryParameters (request : Request) (name value : String) :
    value ∈ request.queryParameters name ↔ (name, value) ∈ request.query := by
  simp [queryParameters]

theorem mem_headerValues (request : Request) (name value : String) :
    value ∈ request.headerValues name ↔ request.HasHeader name value := by
  rw [headerValues, Headers.texts, Headers.values, HasHeader]
  cases known : normalizeHeaderName? name with
  | none => simp
  | some key => simp

theorem header_eq_first (request : Request) {name : String}
    (lower : normalizeHeaderName? name = some name) :
    request.header? name = request.firstHeader? name := by
  have first (fields : List (String × List UInt8)) :
      ((fields.filter fun field => field.1 == name).map Prod.snd).head? = fields.lookup name := by
    induction fields with
    | nil => rfl
    | cons field fields ih =>
        rw [List.filter_cons, List.lookup_cons, BEq.comm]
        cases name == field.1 with
        | true => rfl
        | false => exact ih
  rw [header?, Headers.text?, Headers.values, lower, firstHeader?, ← first]

end Request

namespace RouteMapping

theorem condition_eq_some {declared holds : Bool} {step : Nat} :
    condition declared holds = some step ↔
      (declared = true → holds = true) ∧ step = declared.toNat := by
  cases declared <;> cases holds <;> simp [condition, eq_comm]

theorem consumes_request_iff (mapping : RouteMapping) (request : Request) :
    mapping.consumesRequest request = true ↔
      ∃ contentType, request.firstHeader? "content-type" = some contentType ∧
        ∃ entry ∈ mapping.consumes, MediaFits entry contentType := by
  rw [consumesRequest, request.header_eq_first (by decide)]
  cases request.firstHeader? "content-type" with
  | none => simp
  | some contentType => simp [media_matches_media_type, media_matches_iff]

theorem produces_for_iff (mapping : RouteMapping) (request : Request) :
    mapping.producesFor request = true ↔
      ∃ range ∈ request.acceptedRanges, ∃ entry ∈ mapping.produces, MediaFits range entry := by
  rw [producesFor, request.header_eq_first (by decide)]
  simp [Request.acceptedRanges, media_type_media_matches, media_matches_iff]

theorem declared_or_empty {Item : Type} (items : List Item) (holds : Prop) :
    ((!items.isEmpty) = true → holds) ↔ items = [] ∨ holds := by
  cases items <;> simp

/-- A list of conditions that is empty holds as well. -/
theorem all_hold_iff {requirements : List Requirement} {lookup : String → List String}
    {found : String → String → Prop}
    (looks : ∀ name value, value ∈ lookup name ↔ found name value) :
    ((!requirements.isEmpty) = true →
      (requirements.all fun requirement => requirement.holds lookup) = true) ↔
        ∀ requirement ∈ requirements, requirement.Met found := by
  rw [declared_or_empty, List.all_eq_true]
  simp only [Requirement.holds_iff looks]
  constructor
  · rintro (rfl | each)
    · simp
    · exact each
  · exact .inr

theorem criteria_eq (mapping : RouteMapping) :
    mapping.criteria = (!mapping.methods.isEmpty).toNat + (!mapping.parameters.isEmpty).toNat +
      (!mapping.headers.isEmpty).toNat + (!mapping.consumes.isEmpty).toNat +
        (!mapping.produces.isEmpty).toNat := by
  have one (empty : Bool) : (if empty == false then 1 else 0) = (!empty).toNat := by
    cases empty <;> rfl
  simp only [criteria, List.count_cons, List.count_nil, one]
  omega

theorem test_eq_some {mapping : RouteMapping} {request : Request} {path : String}
    {found : PathMatch} {confidence : Nat} :
    mapping.test request path = some (found, confidence) ↔
      mapping.FirstMatch path found ∧ mapping.Accepts request ∧ confidence = mapping.criteria := by
  simp only [test, Option.bind_eq_bind, Option.bind_eq_some_iff, condition_eq_some,
    all_hold_iff request.mem_queryParameters, all_hold_iff request.mem_headerValues,
    consumes_request_iff, produces_for_iff, declared_or_empty, List.contains_iff_mem]
  constructor
  · rintro ⟨first, matched, _, ⟨method, rfl⟩, _, ⟨parameters, rfl⟩, _, ⟨headers, rfl⟩, _,
      ⟨consumes, rfl⟩, _, ⟨produces, rfl⟩, same⟩
    cases same
    exact ⟨List.findSome?_eq_some_iff.1 matched,
      ⟨method, parameters, headers, consumes, produces⟩, mapping.criteria_eq.symm⟩
  · rintro ⟨matched, accepts, rfl⟩
    refine ⟨found, List.findSome?_eq_some_iff.2 matched, _, ⟨accepts.method, rfl⟩, _,
      ⟨accepts.parameters, rfl⟩, _, ⟨accepts.headers, rfl⟩, _, ⟨accepts.consumes, rfl⟩, _,
      ⟨accepts.produces, rfl⟩, ?_⟩
    rw [criteria_eq]
    rfl

end RouteMapping

theorem RouteDeclaration.declares_of_compile {declaration : RouteDeclaration}
    {mapping : RouteMapping} (compiled : declaration.compile = .ok mapping) :
    declaration.Declares mapping := by
  obtain ⟨patterns, inOrder, rfl⟩ := compile_eq_ok compiled
  have written (expressions : List String) :
      List.Forall₂ Requirement.Written expressions (expressions.map Requirement.parse) := by
    rw [List.forall₂_map_right_iff, List.forall₂_same]
    intro expression _
    exact Requirement.written_parse expression
  exact ⟨inOrder, rfl, written _, written _, rfl, rfl⟩

/-- A route takes a request exactly if a pattern matches the path, of which the first counts, and
every kind of condition that the route declares holds for the request. The confidence of the match
is the number of the kinds that are declared, whatever the request is. A route that is compiled has
the patterns and the conditions of its declaration in their order. Media types go together or not
in either order. Neither their parameters nor the case of their letters count, nor do blanks around
them, and all else does: what is compared is what stands before the first semicolon, trimmed and in
lower case. -/
theorem test_iff_accepts (mapping : RouteMapping) :
    (∀ request path found confidence, mapping.test request path = some (found, confidence) ↔
      mapping.FirstMatch path found ∧ mapping.Accepts request ∧ confidence = mapping.criteria) ∧
    (∀ declaration : RouteDeclaration, declaration.compile = .ok mapping →
      declaration.Declares mapping) ∧
    (∀ one other, MediaFits one other → MediaFits other one) ∧
    (∀ text parameters, mediaType (text ++ ";" ++ parameters) = mediaType text) ∧
    (∀ one other,
      Text.sameIgnoringAsciiCase one other = true → mediaType one = mediaType other) ∧
    ∀ text, (mediaType text).toList =
      Text.trimBoth Text.isBlank ((text.toList.map Char.toLower).takeWhile (· ≠ ';')) := by
  refine ⟨?_, ?_, ?_, media_type_parameters, ?_, media_type_toList⟩
  · intro request path found confidence
    exact RouteMapping.test_eq_some
  · intro declaration compiled
    exact RouteDeclaration.declares_of_compile compiled
  · intro one other fits
    exact fits.symm
  · intro one other same
    exact media_type_casing same

end RequestDispatch
