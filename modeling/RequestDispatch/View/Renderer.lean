import RequestDispatch.Entries
import RequestDispatch.Failure.Causes
import RequestDispatch.FileTree.Pattern
import RequestDispatch.Settings.Environment
import RequestDispatch.View.Template

/-!
Renderers: what turns the name of a view and a model into text. The templates of a set are found
by name, and a suffix completes the names of views that have no extension.
-/

namespace RequestDispatch

abbrev Model := Entries Value

structure Renderer where
  contentType : String
  render : String → Model → Except ViewError String

def htmlPage : String := "text/html; charset=utf-8"

/-- Templates by name, with the suffix that completes names of views. -/
structure TemplateSet where
  templates : Entries Template
  suffix : String

namespace TemplateSet

def ofTexts (texts : List (String × String)) : Except ViewError TemplateSet := do
  let templates ← texts.mapM fun (name, text) =>
    match Template.parse? text with
    | some template => .ok (name, template)
    | none => .error (.initialization ("Failed to parse '" ++ name ++ "'"))
  return ⟨.ofList templates, ".html"⟩

def withSuffix (set : TemplateSet) (suffix : String) : TemplateSet := { set with suffix := suffix }

/-- Reads all files below a directory as templates, named by their paths from there. A backslash in
such a name counts as a slash. The directory may be written as a pattern. -/
def ofFiles (tree : FileTree) (directory : String) : Except ViewError TemplateSet :=
  let written := directory.toList.reverse.dropWhile (· = '/')
  let files := tree.select (String.ofList written.reverse ++ "/**/*")
  ofTexts (files.map fun (path, content) =>
    (String.ofList (path.toList.map fun character => if character = '\\' then '/' else character),
      content))

def ofEnvironment (environment : Environment) (tree : FileTree) : Except ViewError TemplateSet :=
  (ofFiles tree (environment.text "view.template-dir" "templates")).map fun set =>
    match environment.text? "view.suffix" with
    | some suffix => set.withSuffix suffix
    | none => set

/-- The name of the template of a view: the name of the view itself if its last step has a dot. -/
def templateName (set : TemplateSet) (view : String) : String :=
  if ((Text.splitOn '/' view.toList).getLastD []).contains '.' then view else view ++ set.suffix

def escapes (name : String) : Bool :=
  [".html", ".htm", ".xml"].any fun ending => name.endsWith ending

def render (set : TemplateSet) (view : String) (model : Model) : Except ViewError String :=
  let name := set.templateName view
  match set.templates.get? name with
  | none => .error (.rendering name ("Template '" ++ name ++ "' not found"))
  | some template =>
    let fields := model.map fun (key, value) => (key, Json.ofValue value)
    match template.fill (escapes name) (.object fields) with
    | .ok text => .ok text
    | .error missing =>
      .error (.rendering name ("Failed to render '" ++ name ++ "': Variable `" ++ missing ++
        "` not found in context while rendering '" ++ name ++ "'"))

def renderer (set : TemplateSet) : Renderer := ⟨htmlPage, set.render⟩

end TemplateSet
end RequestDispatch
