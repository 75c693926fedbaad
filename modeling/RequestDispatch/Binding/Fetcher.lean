import RequestDispatch.Binding.Parameter
import RequestDispatch.Container.Basic
import RequestDispatch.Conversion.Service
import RequestDispatch.Exchange.Basic
import RequestDispatch.Failure.Basic
import RequestDispatch.Value.Collection

/-!
Fetchers: how the value of a parameter is taken from an exchange. A fetcher is put together when
the dispatcher is built, and what can be wrong with the declaration is found then.
-/

namespace RequestDispatch

inductive ManyValued where
  | query
  | header
  deriving DecidableEq, Repr

namespace ManyValued

def source : ManyValued → ParameterSource
  | .query => .query
  | .header => .header

def values (origin : ManyValued) (request : Request) (name : String) : List String :=
  match origin with
  | .query => request.queryParameters name
  | .header => request.headerValues name

end ManyValued

/-- What stands for a missing value: a default text, nothing, or a failure. -/
structure Fallback where
  default : Option String
  required : Bool

inductive Fetcher where
  | scalar (origin : ManyValued) (name : String) (target : TypeDescriptor) (fallback : Fallback)
  | collection (origin : ManyValued) (name : String) (kind : CollectionKind)
      (element : TypeDescriptor) (adapter : Option CollectionAdapter) (fallback : Fallback)
  | map (name : String) (key value : TypeDescriptor) (fallback : Fallback)
  | pathVariable (name : String) (target : TypeDescriptor)
  | session (name : String) (target : TypeDescriptor)
  | requestAttribute (name : String) (target : TypeDescriptor)
  | interceptSlot
  | container (type : TypeKey) (qualifier : Option String)

/-- The pieces of a default text for several values: separated by commas, trimmed and not empty. -/
def splitDefault (text : String) : List String :=
  ((Text.splitOn ',' text.toList).map fun piece => Text.trim (String.ofList piece)).filter
    fun piece => !piece.isEmpty

/-- The pairs of a default text for a map: separated by commas, the key before the first equals
sign, both trimmed. -/
def splitDefaultPairs (text : String) : List (String × String) :=
  ((Text.splitOn ',' text.toList).filter fun piece =>
      !(Text.trim (String.ofList piece)).isEmpty).map fun piece =>
    match Text.splitOnce '=' piece with
    | some (key, value) => (Text.trim (String.ofList key), Text.trim (String.ofList value))
    | none => (Text.trim (String.ofList piece), "")

/-- The key that a query name holds for a map: `name:key` or `name[key]`. -/
def entryKey? (name queryName : String) : Option String :=
  match Text.dropBeginning name.toList queryName.toList with
  | some (':' :: key) => some (String.ofList key)
  | some ('[' :: key) =>
    if key.getLast? = some ']' then some (String.ofList key.dropLast) else none
  | _ => none

def entryPairs (name : String) (query : List (String × String)) : List (String × String) :=
  query.filterMap fun field => (entryKey? name field.1).map fun key => (key, field.2)

/-- Texts are converted for these types when they are found as attributes. -/
def isTextConvertible (target : TypeDescriptor) : Bool :=
  match target.kind with
  | .primitive _ | .boxed _ | .enumeration _ | .array _ => true
  | _ => false

namespace ConversionService

def bind (service : ConversionService) (target : TypeDescriptor) (raw : Value) :
    Except DispatchError Value × ConversionService :=
  let (converted, service) := service.convert target raw
  (converted.mapError .conversion, service)

def bindPairs (key value : TypeDescriptor) :
    ConversionService → List (Value × Value) → List (String × String) →
      Except DispatchError (List (Value × Value)) × ConversionService
  | service, entries, [] => (.ok entries, service)
  | service, entries, (keyText, valueText) :: rest =>
    match service.bind key (.text keyText) with
    | (.error error, service) => (.error error, service)
    | (.ok converted, service) =>
      match service.bind value (.text valueText) with
      | (.error error, service) => (.error error, service)
      | (.ok held, service) =>
        bindPairs key value service (Value.insertEntry converted held entries) rest

end ConversionService

namespace Fetcher

def source : Fetcher → ParameterSource
  | .scalar origin _ _ _ => origin.source
  | .collection origin _ _ _ _ _ => origin.source
  | .map _ _ _ _ => .query
  | .pathVariable _ _ => .path
  | .session _ _ => .session
  | .requestAttribute _ _ => .requestAttribute
  | .interceptSlot => .interceptSlot
  | .container _ _ => .container

def rawScalar (origin : ManyValued) (name : String) (target : TypeDescriptor) (fallback : Fallback)
    (found : List String) : Except DispatchError Value :=
  match found, fallback.default with
  | first :: rest, _ =>
    .ok (if target.isArray then .array ((first :: rest).map .text) else .text first)
  | [], some text =>
    .ok (if target.isArray then .array ((splitDefault text).map .text) else .text text)
  | [], none =>
    if fallback.required then .error (.missingParameter name origin.source) else .ok .null

def rawItems (origin : ManyValued) (name : String) (fallback : Fallback) (found : List String) :
    Except DispatchError (List Value) :=
  match found, fallback.default with
  | first :: rest, _ => .ok ((first :: rest).map .text)
  | [], some text => .ok ((splitDefault text).map .text)
  | [], none =>
    if fallback.required then .error (.missingParameter name origin.source) else .ok []

def ofAttribute (service : ConversionService) (target : TypeDescriptor) :
    Option Value → Except DispatchError Value × ConversionService
  | none | some .null => (.ok (nullValue target), service)
  | some (.text text) =>
    if isTextConvertible target then service.bind target (.text text)
    else (.ok (.text text), service)
  | some other => (.ok other, service)

/-- The pairs of a map parameter: those of the query, or else those of the default. -/
def rawPairs (name : String) (fallback : Fallback) (query : List (String × String)) :
    Except DispatchError (List (String × String)) :=
  match entryPairs name query, fallback.default with
  | first :: rest, _ => .ok (first :: rest)
  | [], some text => .ok (splitDefaultPairs text)
  | [], none => if fallback.required then .error (.missingParameter name .query) else .ok []

variable {State Bean : Type}

/-- Takes the value of a parameter from an exchange. The fetch is abandoned when the elements of a
sorted collection cannot be sorted. -/
def fetch (object : Bean → SharedObject) (exchange : Exchange State) (service : ConversionService)
    (container : Container Bean) :
    Fetcher → Option (Except DispatchError Value) × ConversionService × Container Bean
  | .scalar origin name target fallback =>
    match rawScalar origin name target fallback (origin.values exchange.request name) with
    | .error error => (some (.error error), service, container)
    | .ok raw =>
      let (fetched, service) := service.bind target raw
      (some fetched, service, container)
  | .collection origin name kind element adapter fallback =>
    match rawItems origin name fallback (origin.values exchange.request name) with
    | .error error => (some (.error error), service, container)
    | .ok raw =>
      let (converted, service) :=
        ConversionService.convertItems (fun service item => service.convert element item) service
          raw
      let build (items : List Value) : Option Value :=
        match adapter with
        | some adapter => some (adapter items)
        | none => Value.collect? kind items
      let fetched :=
        match converted with
        | .error error => some (.error (.conversion error))
        | .ok items => (build items).map .ok
      (fetched, service, container)
  | .map name key value fallback =>
    match rawPairs name fallback exchange.request.query with
    | .error error => (some (.error error), service, container)
    | .ok pairs =>
      let (entries, service) := ConversionService.bindPairs key value service [] pairs
      (some (entries.map .map), service, container)
  | .pathVariable name target =>
    match exchange.pathVariable? name with
    | none => (some (.error (.missingParameter name .path)), service, container)
    | some text =>
      let (fetched, service) := service.bind target (.text text)
      (some fetched, service, container)
  | .session name target =>
    let (fetched, service) := ofAttribute service target (exchange.sessionAttribute? name)
    (some fetched, service, container)
  | .requestAttribute name target =>
    let (fetched, service) := ofAttribute service target (exchange.attribute? name)
    (some fetched, service, container)
  | .interceptSlot => (some (.ok .null), service, container)
  | .container type qualifier =>
    let (resolved, container) := container.resolve type qualifier
    (some ((resolved.mapError .container).map fun bean => .object (object bean)), service,
      container)

end Fetcher

namespace Parameter

def ensure (parameter : Parameter) (service : ConversionService) (target : TypeDescriptor) :
    Except ConfigurationProblem Unit × ConversionService :=
  let (result, service) := service.ensureConvertible target
  (result.mapError (.unconvertible parameter.name), service)

def fallback (parameter : Parameter) : Fallback := ⟨parameter.default, parameter.required⟩

/-- The adapter of a collection parameter; only custom kinds have one and must have one. -/
def adapterFor (parameter : Parameter) (service : ConversionService) :
    CollectionKind → Except ConfigurationProblem (Option CollectionAdapter)
  | .custom key =>
    match service.adapter? key with
    | some adapter => .ok (some adapter)
    | none => .error (.noCollectionAdapter parameter.name key)
  | _ => .ok none

def manyValuedFetcher (parameter : Parameter) (service : ConversionService) (origin : ManyValued)
    (name : String) : Except ConfigurationProblem Fetcher × ConversionService :=
  match origin, parameter.type.kind with
  | origin, .collection kind element =>
    let (checked, service) := parameter.ensure service element
    (do
      checked
      let adapter ← parameter.adapterFor service kind
      return .collection origin name kind element adapter parameter.fallback, service)
  | .query, .map key value =>
    match parameter.ensure service key with
    | (.error problem, service) => (.error problem, service)
    | (.ok _, service) =>
      let (checked, service) := parameter.ensure service value
      (checked.map fun _ => .map name key value parameter.fallback, service)
  | origin, _ =>
    let (checked, service) := parameter.ensure service parameter.type
    (checked.map fun _ => .scalar origin name parameter.type parameter.fallback, service)

/-- The fetcher of a parameter of a method with a route. The variables of the path must be declared
by the route, and types that texts are converted to must be convertible. -/
def fetcher (parameter : Parameter) (mapping : RouteMapping) (service : ConversionService) :
    Except ConfigurationProblem Fetcher × ConversionService :=
  match parameter.binding with
  | .query name => parameter.manyValuedFetcher service .query name
  | .header name => parameter.manyValuedFetcher service .header name
  | .pathVariable name =>
    if mapping.declaresVariable name then
      let (checked, service) := parameter.ensure service parameter.type
      (checked.map fun _ => .pathVariable name parameter.type, service)
    else (.error (.undeclaredVariable parameter.name name mapping.display), service)
  | .session name => (.ok (.session name parameter.type), service)
  | .requestAttribute name => (.ok (.requestAttribute name parameter.type), service)
  | .interceptSlot => (.ok .interceptSlot, service)
  | .container qualifier => (.ok (.container parameter.type.key qualifier), service)

end Parameter
end RequestDispatch
