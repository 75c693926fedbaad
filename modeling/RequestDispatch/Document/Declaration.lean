import RequestDispatch.Dispatch.Dispatcher
import RequestDispatch.Document.Script
import RequestDispatch.Document.Setting
import RequestDispatch.Document.Type
import RequestDispatch.View.Echo

/-!
Declarations as JSON documents: routes, parameters, outcomes, views, controllers and dispatchers
whose methods and fault handlers are scripts.
-/

namespace RequestDispatch

def RouteDeclaration.ofJson (json : Json) : RouteDeclaration :=
  let verb := ((json.textAt? "verb").map Text.upper).toList
  { paths := json.textsAt "paths"
    methods := ((verb ++ json.textsAt "methods").foldl RouteDeclaration.allow .empty).methods
    parameters := json.textsAt "params", headers := json.textsAt "headers"
    consumes := json.textsAt "consumes", produces := json.textsAt "produces" }

def Parameter.ofJson (objects : TypeKey) (json : Json) : Parameter :=
  { name := json.textAt "name", type := .ofJson objects (json.part "ty")
    query := json.textAt? "query", pathVariable := json.textAt? "path"
    header := json.textAt? "header", session := json.textAt? "session"
    requestAttribute := json.textAt? "attribute", interceptSlot := json.flagAt "intercept"
    qualifier := json.textAt? "qualifier", default := json.textAt? "default"
    required := !json.flagAt "optional" }

def Outcome.ofJson (json : Json) : Outcome :=
  match json.entry with
  | ("view", template) => .view template.content?
  | ("redirect", template) => .redirect template.content?
  | ("status", .array [code, message]) => .status code.integer.toNat message.content?
  | ("status", code) => .status code.integer.toNat none
  | _ => .write

def TemplateSet.ofJson (templates : Json) (suffix : Option String) :
    Except ViewError TemplateSet := do
  let set ← TemplateSet.ofTexts (templates.items.map fun entry => (entry.textAt 0, entry.textAt 1))
  return (suffix.map set.withSuffix).getD set

/-- Reads a renderer, if there is one: an echo, or the set of templates in the field that holds a
list. -/
def Renderer.ofJson? (json : Json) : Option Renderer :=
  match json.part? "echo" with
  | some echo =>
    some (.echo ((echo.textAt? "content_type").getD htmlPage) (echo.textsAt "fail")
      (echo.textsAt "missing"))
  | none => do
    let (_, templates) ← json.fields.find? fun field => field.2.items?.isSome
    let set ← (TemplateSet.ofJson templates (json.textAt? "suffix")).toOption
    return set.renderer

def InterceptorDeclarations.ofJson (json : Json) : InterceptorDeclarations :=
  json.items.foldl (fun declarations entry =>
    match entry.part? "method" with
    | some method =>
      declarations.onMethod ⟨method.typeAt 0, method.textAt 1⟩ (entry.typeAt "by")
    | none => declarations.onType (entry.typeAt "type") (entry.typeAt "by")) .empty

namespace Vocabulary

def method (words : Vocabulary) (controllers : String → TypeKey) (owner : TypeKey) (json : Json) :
    HandlerMethod Journal where
  name := json.textAt "name"
  route := .ofJson (json.part "route")
  parameters := (json.listAt "params").map (Parameter.ofJson words.objects)
  outcomes := (json.listAt "outcomes").map Outcome.ofJson
  defaultView := json.textAt? "default_view"
  target := ((json.textAt? "target").map controllers).getD owner
  body := words.handler (!json.flagAt "plain") (json.part "do")

def controller (words : Vocabulary) (controllers : String → TypeKey) (json : Json) :
    ControllerDefinition Journal :=
  let type := controllers (json.textAt "type")
  ⟨type, (json.listAt "methods").map (words.method controllers type)⟩

def faultHandler (json : Json) : ExceptionHandler Journal :=
  HandlerStatement.faultHandler (json.part "status").nat? (json.textAt? "write")
    (!json.flagAt "decline")

def dispatcher (words : Vocabulary) (controllers faultKinds : String → TypeKey) (json : Json)
    (base : DispatcherDefinition Journal) : DispatcherDefinition Journal :=
  (json.listAt "exceptions").foldl (fun definition handler =>
      definition.onFault (faultKinds (handler.textAt "for")) (faultHandler handler))
    { base with
      pathPrefix := (json.textAt? "prefix").getD base.pathPrefix
      errorDetails := ((json.part "error_details").flag?).getD base.errorDetails
      views := Renderer.ofJson? (json.part "views")
      controllers := (json.listAt "controllers").map (words.controller controllers) }

end Vocabulary
end RequestDispatch
