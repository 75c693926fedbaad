import RequestDispatch.Settings.Value
import RequestDispatch.Text.Quoted

/-!
The environment: settings under dotted keys, gathered from sources. Of the sources that know a key
the one with the highest priority counts, and of those with one priority the one added first.
-/

namespace RequestDispatch

/-- Where a source has its settings from: fixed entries, or the variables of the process whose
names start with a given text. -/
inductive SourceContent where
  | fixed (entries : Entries Setting)
  | ofProcess (beginning : String) (process : Entries String)

structure PropertySource where
  name : String
  priority : Int32
  content : SourceContent

/-- The name of the variable for a key: dots and dashes become underscores, letters are raised. -/
def variableName (beginning key : String) : String :=
  beginning ++ Text.upper (String.ofList (key.toList.map fun character =>
    if character = '.' ∨ character = '-' then '_' else character))

def variableKey (rest : String) : String :=
  String.ofList ((Text.lower rest).toList.map fun character =>
    if character = '_' then '.' else character)

/-- The value of the variable with the given name. A variable is kept as one text, its name, an
equals sign and its value, and is found by how that text begins: a name with an equals sign in it
reaches into the value. -/
def lookUp? (process : Entries String) (name : String) : Option String :=
  process.findSome? fun (own, value) =>
    (Text.dropBeginning (name ++ "=").toList (own ++ "=" ++ value).toList).map String.ofList

namespace PropertySource

def ofEntries (name : String) (entries : Entries Setting) : PropertySource :=
  ⟨name, 50, .fixed entries⟩

def ofVariables (beginning : String) (process : Entries String) : PropertySource :=
  ⟨"environment", 100, .ofProcess beginning process⟩

def withPriority (source : PropertySource) (priority : Int32) : PropertySource :=
  { source with priority := priority }

def get? (source : PropertySource) (key : String) : Option Setting :=
  match source.content with
  | .fixed entries => entries.get? key
  | .ofProcess beginning process => (lookUp? process (variableName beginning key)).map .text

def keys (source : PropertySource) : List String :=
  match source.content with
  | .fixed entries => entries.keys
  | .ofProcess beginning process =>
    process.keys.filterMap fun name =>
      (Text.dropBeginning beginning.toList name.toList).map fun rest =>
        variableKey (String.ofList rest)

end PropertySource

structure Environment where
  /-- The sources from the highest priority to the lowest. -/
  sources : List PropertySource
  activeProfiles : List String

namespace Environment

def empty : Environment := ⟨[], []⟩

/-- Adds a source behind those of the same priority. -/
def add (environment : Environment) (source : PropertySource) : Environment :=
  { environment with
    sources := (environment.sources ++ [source]).mergeSort fun first second =>
      second.priority ≤ first.priority }

def withProfiles (environment : Environment) (profiles : List String) : Environment :=
  { environment with activeProfiles := profiles }

def get? (environment : Environment) (key : String) : Option Setting :=
  environment.sources.findSome? fun source => source.get? key

def contains (environment : Environment) (key : String) : Bool := (environment.get? key).isSome

def text? (environment : Environment) (key : String) : Option String :=
  (environment.get? key).bind Setting.text?

def text (environment : Environment) (key default : String) : String :=
  (environment.text? key).getD default

def int? (environment : Environment) (key : String) : Option Int64 :=
  (environment.get? key).bind Setting.int?

def int (environment : Environment) (key : String) (default : Int64) : Int64 :=
  (environment.int? key).getD default

def float? (environment : Environment) (key : String) : Option Double :=
  (environment.get? key).bind Setting.float?

def bool? (environment : Environment) (key : String) : Option Bool :=
  (environment.get? key).bind Setting.bool?

def bool (environment : Environment) (key : String) (default : Bool) : Bool :=
  (environment.bool? key).getD default

def texts? (environment : Environment) (key : String) : Option (List String) :=
  (environment.get? key).bind Setting.texts?

def accepts (environment : Environment) (profile : String) : Bool :=
  environment.activeProfiles.contains profile

def inspect (environment : Environment) : String :=
  "Environment \x7b sources: " ++ Text.quotedList (environment.sources.map PropertySource.name) ++
    ", active_profiles: " ++ Text.quotedList environment.activeProfiles ++ " \x7d"

end Environment

inductive SettingsProblem where
  | unreadable (source reason : String)
  | malformed (source reason : String)
  | outOfRange (key : String) (value : Int)
  | negative (key : String) (value : Int)
  deriving DecidableEq, Repr

def SettingsProblem.message : SettingsProblem → String
  | .unreadable source reason => "Configuration error: Failed to read " ++ source ++ ": " ++ reason
  | .malformed source reason => "Configuration error: Failed to parse " ++ source ++ ": " ++ reason
  | .outOfRange key value => "Configuration error: " ++ key ++ " out of range: " ++ toString value
  | .negative key value =>
    "Configuration error: " ++ key ++ " must not be negative: " ++ toString value

end RequestDispatch
