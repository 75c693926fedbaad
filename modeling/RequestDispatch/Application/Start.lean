import RequestDispatch.Application.Context
import RequestDispatch.FileTree
import RequestDispatch.Settings.Logging
import RequestDispatch.Settings.Toml.Document

/-!
The start of an application. The files of settings that exist are read, those of the active profiles
after the others and with higher priority, the later profile with the higher one. The variables of
the process come before all files. Then the initializers run in order; the first failure ends the
start.
-/

namespace RequestDispatch

/-- A step of the start. It changes the context, or fails with a chain of causes. -/
abbrev Initializer (Bean : Type) :=
  ApplicationContext Bean → Except (List String) (ApplicationContext Bean)

structure Application (Bean : Type) where
  name : String
  settingsFiles : List String
  /-- What the names of the variables start with that the application reads. -/
  variablePrefix : String
  profiles : List String
  /-- Settings of the log in place of those of the environment. -/
  logging : Option LoggingSettings
  initializers : List (Initializer Bean)

inductive StartFailure where
  | settings (path : String) (problem : SettingsProblem)
  | initializer (index : Nat) (causes : List String)
  deriving DecidableEq, Repr

namespace StartFailure

def chain : StartFailure → List String
  | .settings path problem => ["Failed to load configuration file " ++ path, problem.message]
  | .initializer index causes => ("Initializer #" ++ toString index ++ " failed") :: causes

end StartFailure

/-- The file of settings for a profile: its name is that of the base file with the profile before
the last dot, or at the end if there is no dot. -/
def profilePath (base profile : String) : String :=
  match Text.splitLast '.' base.toList with
  | some (name, ending) => String.ofList name ++ "-" ++ profile ++ "." ++ String.ofList ending
  | none => base ++ "-" ++ profile

namespace Application

variable {Bean : Type}

def named (name : String) : Application Bean :=
  { name := name, settingsFiles := ["application.toml"], variablePrefix := "APP_", profiles := []
    logging := none, initializers := [] }

/-- The active profiles: those of the application itself, or else those that a variable lists. -/
def activeProfiles (application : Application Bean) (process : Entries String) : List String :=
  if application.profiles.isEmpty then
    ((lookUp? process (application.variablePrefix ++ "PROFILES_ACTIVE")).map
      Setting.splitCommas).getD []
  else application.profiles

/-- The priority of the files of the profile at an index, which wraps around beyond 32 bits. -/
def profilePriority (index : Nat) : Int32 := 10 + .ofNat index

/-- The files to read, with the priority of each, in the order in which they are read. -/
def plannedFiles (application : Application Bean) (profiles : List String) :
    List (String × Int32) :=
  let base := application.settingsFiles.map fun path => (path, (0 : Int32))
  base ++ profiles.zipIdx.flatMap fun (profile, index) =>
    application.settingsFiles.map fun path => (profilePath path profile, profilePriority index)

def readSource? (tree : FileTree) (path : String) :
    Except SettingsProblem (Option PropertySource) :=
  match tree.find? path with
  | none => .ok none
  | some .directory => .error (.unreadable path "Is a directory (os error 21)")
  | some (.file content) => (PropertySource.ofToml path content).map some

/-- Reads files and adds them to an environment. A file that does not exist is passed over. -/
def readFiles (tree : FileTree) :
    List (String × Int32) → Environment → Except StartFailure Environment
  | [], environment => .ok environment
  | (path, priority) :: rest, environment =>
    match readSource? tree path with
    | .error problem => .error (.settings path problem)
    | .ok none => readFiles tree rest environment
    | .ok (some source) => readFiles tree rest (environment.add (source.withPriority priority))

def environment (application : Application Bean) (tree : FileTree) (process : Entries String) :
    Except StartFailure Environment := do
  let profiles := application.activeProfiles process
  let read ← readFiles tree (application.plannedFiles profiles) .empty
  return (read.add (.ofVariables application.variablePrefix process)).withProfiles profiles

def loggingSettings (application : Application Bean) (environment : Environment) :
    LoggingSettings :=
  application.logging.getD (.ofEnvironment environment)

def runInitializers (index : Nat) :
    List (Initializer Bean) → ApplicationContext Bean →
      Except StartFailure (ApplicationContext Bean)
  | [], context => .ok context
  | initializer :: rest, context =>
    match initializer context with
    | .error causes => .error (.initializer index causes)
    | .ok context => runInitializers (index + 1) rest context

def start (application : Application Bean) (tree : FileTree) (process : Entries String) :
    Except StartFailure (ApplicationContext Bean) := do
  let environment ← application.environment tree process
  runInitializers 0 application.initializers ⟨environment, .empty⟩

end Application
end RequestDispatch
