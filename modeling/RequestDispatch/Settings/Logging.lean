import RequestDispatch.Settings.Environment

/-!
Settings of the log: how much of it is written and in which form. They come from the variables of
the process or from the environment of the application. The log itself belongs to the host, which
accepts settings for it once.
-/

namespace RequestDispatch

inductive LogLevel where
  | trace | debug | info | warn | error
  deriving DecidableEq, Repr

inductive LogFormat where
  | compact | full | json | pretty
  deriving DecidableEq, Repr

inductive LoggingProblem where
  | unknownLevel (text : String)
  | unknownFormat (text : String)
  | alreadyInstalled
  deriving DecidableEq, Repr

def LoggingProblem.message : LoggingProblem → String
  | .unknownLevel text => "Invalid log level: " ++ text
  | .unknownFormat text => "Invalid log format: " ++ text
  | .alreadyInstalled => "Failed to initialize logging: settings are installed already"

namespace LogLevel

def name : LogLevel → String
  | .trace => "trace"
  | .debug => "debug"
  | .info => "info"
  | .warn => "warn"
  | .error => "error"

def parse (text : String) : Except LoggingProblem LogLevel :=
  match Text.lower (Text.trim text) with
  | "trace" => .ok .trace
  | "debug" => .ok .debug
  | "info" => .ok .info
  | "warn" | "warning" => .ok .warn
  | "error" => .ok .error
  | _ => .error (.unknownLevel text)

end LogLevel

namespace LogFormat

def name : LogFormat → String
  | .compact => "compact"
  | .full => "full"
  | .json => "json"
  | .pretty => "pretty"

def parse (text : String) : Except LoggingProblem LogFormat :=
  match Text.lower (Text.trim text) with
  | "compact" => .ok .compact
  | "full" => .ok .full
  | "json" => .ok .json
  | "pretty" => .ok .pretty
  | _ => .error (.unknownFormat text)

end LogFormat

structure LoggingSettings where
  level : LogLevel
  format : LogFormat
  showTarget : Bool
  showThreadNames : Bool
  /-- A filter in the language of the host, which counts instead of the level. -/
  filter : Option String
  deriving DecidableEq, Repr

namespace LoggingSettings

def standard : LoggingSettings := ⟨.info, .compact, false, false, none⟩

def withTexts (settings : LoggingSettings) (level format : Option String) : LoggingSettings :=
  { settings with
    level := ((level.map LogLevel.parse).bind Except.toOption).getD settings.level
    format := ((format.map LogFormat.parse).bind Except.toOption).getD settings.format }

def ofVariables (process : Entries String) : LoggingSettings :=
  { standard.withTexts (lookUp? process "LOG_LEVEL") (lookUp? process "LOG_FORMAT") with
    filter := lookUp? process "RUST_LOG" }

def ofEnvironment (environment : Environment) : LoggingSettings :=
  { standard.withTexts (environment.text? "logging.level") (environment.text? "logging.format") with
    filter := environment.text? "logging.filter"
    showTarget := environment.bool "logging.show-target" false }

/-- Installs settings for the log of the host, which has room for one installation. -/
def install (settings : LoggingSettings) (installed : Option LoggingSettings) :
    Except LoggingProblem LoggingSettings :=
  match installed with
  | none => .ok settings
  | some _ => .error .alreadyInstalled

end LoggingSettings
end RequestDispatch
