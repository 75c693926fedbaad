import RequestDispatch.Exchange.Request
import RequestDispatch.Route.Pattern
import RequestDispatch.Text.Casing

/-!
Route mappings: path patterns with conditions on the method, the parameters, the headers and the
media types of a request. Every kind of condition that is declared must hold, and each one that
holds raises the confidence of the match by one.
-/

namespace RequestDispatch

inductive Requirement where
  | present (name : String)
  | equals (name value : String)
  deriving DecidableEq, Repr

namespace Requirement

/-- Reads `name` or `name=value`, with blanks around either. -/
def parse (expression : String) : Requirement :=
  match Text.splitOnce '=' expression.toList with
  | some (name, value) =>
    .equals (Text.trim (String.ofList name)) (Text.trim (String.ofList value))
  | none => .present (Text.trim expression)

def holds (requirement : Requirement) (lookup : String → List String) : Bool :=
  match requirement with
  | .present name => !(lookup name).isEmpty
  | .equals name value => (lookup name).contains value

end Requirement

/-- The media type before its parameters, in lower case. -/
def mediaType (text : String) : String :=
  Text.lowerAscii (Text.trim (String.ofList (text.toList.takeWhile (· ≠ ';'))))

/-- A media range and a media type go together; either may hold wildcards. -/
def mediaMatches (range media : String) : Bool :=
  let range := mediaType range
  let media := mediaType media
  if range == "*/*" || media == "*/*" || range == media then true
  else
    match Text.splitOnce '/' range.toList, Text.splitOnce '/' media.toList with
    | some (rangeMain, rangeSub), some (mediaMain, mediaSub) =>
      (rangeSub == ['*'] || mediaSub == ['*']) && rangeMain == mediaMain
    | _, _ => false

structure RouteDeclaration where
  paths : List String
  methods : List String
  parameters : List String
  headers : List String
  consumes : List String
  produces : List String

namespace RouteDeclaration

def empty : RouteDeclaration := ⟨[], [], [], [], [], []⟩

def allow (declaration : RouteDeclaration) (method : String) : RouteDeclaration :=
  if declaration.methods.contains method then declaration
  else { declaration with methods := declaration.methods ++ [method] }

end RouteDeclaration

inductive RouteProblem where
  | noPath
  | invalidPattern (template : String) (problem : PatternProblem)
  deriving DecidableEq, Repr

def RouteProblem.message : RouteProblem → String
  | .noPath => "Route mapping declares no path"
  | .invalidPattern template problem =>
    "Invalid path pattern '" ++ template ++ "': " ++ problem.message

structure RouteMapping where
  patterns : List PathPattern
  methods : List String
  parameters : List Requirement
  headers : List Requirement
  consumes : List String
  produces : List String

def compilePattern (template : String) : Except RouteProblem PathPattern :=
  match PathPattern.compile template with
  | .ok pattern => .ok pattern
  | .error problem => .error (.invalidPattern template problem)

def RouteDeclaration.compile (declaration : RouteDeclaration) : Except RouteProblem RouteMapping :=
  if declaration.paths.isEmpty then .error .noPath
  else do
    let patterns ← declaration.paths.mapM compilePattern
    return { patterns := patterns
             methods := declaration.methods
             parameters := declaration.parameters.map Requirement.parse
             headers := declaration.headers.map Requirement.parse
             consumes := declaration.consumes
             produces := declaration.produces }

namespace RouteMapping

def declaresVariable (mapping : RouteMapping) (name : String) : Bool :=
  !mapping.patterns.isEmpty && mapping.patterns.all fun pattern => pattern.names.contains name

/-- The confidence that a kind of condition adds: none if it is not declared, one if it holds. -/
def condition (declared holds : Bool) : Option Nat :=
  if declared then (if holds then some 1 else none) else some 0

def consumesRequest (mapping : RouteMapping) (request : Request) : Bool :=
  match request.header? "content-type" with
  | none => false
  | some contentType => mapping.consumes.any fun range => mediaMatches range (mediaType contentType)

/-- Some media range that the client accepts fits one that the route produces. A client that does
not say accepts everything. -/
def producesFor (mapping : RouteMapping) (request : Request) : Bool :=
  let accepted := (request.header? "accept").getD "*/*"
  (Text.splitOn ',' accepted.toList).any fun range =>
    mapping.produces.any fun media => mediaMatches (mediaType (String.ofList range)) media

def test (mapping : RouteMapping) (request : Request) (path : String) :
    Option (PathMatch × Nat) := do
  let found ← mapping.patterns.findSome? fun pattern => pattern.match? path
  let byMethod ← condition (!mapping.methods.isEmpty) (mapping.methods.contains request.method)
  let byParameters ← condition (!mapping.parameters.isEmpty)
    (mapping.parameters.all fun requirement => requirement.holds request.queryParameters)
  let byHeaders ← condition (!mapping.headers.isEmpty)
    (mapping.headers.all fun requirement => requirement.holds request.headerValues)
  let byContent ← condition (!mapping.consumes.isEmpty) (mapping.consumesRequest request)
  let byAccept ← condition (!mapping.produces.isEmpty) (mapping.producesFor request)
  return (found, byMethod + byParameters + byHeaders + byContent + byAccept)

def display (mapping : RouteMapping) : String :=
  let methods := if mapping.methods.isEmpty then "*" else ",".intercalate mapping.methods
  methods ++ " " ++ " | ".intercalate (mapping.patterns.map PathPattern.template)

end RouteMapping
end RequestDispatch
