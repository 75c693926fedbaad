import RequestDispatch.Document.Value
import RequestDispatch.Failure.Basic
import RequestDispatch.Settings.Logging

/-!
Failures as JSON documents: the kind of a failure in one word, and its text.
-/

namespace RequestDispatch

def failureJson (kind message : String) : Json :=
  .object [("error", .text kind), ("message", .text message)]

def ValueError.word : ValueError → String
  | .typeMismatch _ _ => "TypeMismatch"
  | .outOfRange _ _ => "OutOfRange"
  | .indexOutOfBounds _ _ => "IndexOutOfBounds"

def ConvertError.word : ConvertError → String
  | .noConverter _ => "NoConverter"
  | .primitiveArray _ => "CannotConvertPrimitive"
  | .notConvertible _ => "NotConvertible"
  | .invalid _ _ _ => "Invalid"

def ContainerError.word : ContainerError → String
  | .beanNotFound _ _ => "BeanNotFound"
  | .noUniqueBean _ _ => "NoUniqueBean"
  | .duplicateBean _ _ => "DuplicateBean"
  | .typeMismatch _ _ => "TypeMismatch"

def InterceptionError.word : InterceptionError → String
  | .unresolved _ _ _ => "Resolve"
  | .notAnInterceptor _ => "NotAnInterceptor"

def DispatchError.word : DispatchError → String
  | .notFound _ _ => "NotFound"
  | .missingParameter _ _ => "MissingParameter"
  | .conversion _ => "Conversion"
  | .view _ => "View"
  | .interception _ => "Interceptor"
  | .container _ => "Container"
  | .configuration _ => "Configuration"
  | .invalidHeader _ => "InvalidHeader"
  | .handler _ => "Handler"
  | .handled => "Handled"

instance : ToJson ValueError := ⟨fun error => failureJson error.word error.message⟩

instance : ToJson ConvertError := ⟨fun error => failureJson error.word error.message⟩

instance : ToJson ContainerError := ⟨fun error => failureJson error.word error.message⟩

instance : ToJson InterceptionError := ⟨fun error => failureJson error.word error.message⟩

instance : ToJson DispatchError := ⟨fun error => failureJson error.word error.message⟩

instance : ToJson HeaderProblem := ⟨fun problem => toJson (DispatchError.invalidHeader problem)⟩

instance : ToJson ConfigurationProblem :=
  ⟨fun problem => toJson (DispatchError.configuration problem)⟩

instance : ToJson RouteProblem := ⟨fun problem => toJson (ConfigurationProblem.route problem)⟩

instance : ToJson SettingsProblem :=
  ⟨fun problem => failureJson "Configuration" problem.message⟩

instance : ToJson Fault := ⟨fun fault => failureJson fault.kind.simpleName fault.message⟩

instance : ToJson ViewError where
  toJson
    | .noRenderer view => failureJson "NoRendererFound" (ViewError.noRenderer view).message
    | .rendering view _ => .object [("error", .text "Rendering"), ("view", .text view)]
    | .initialization _ => .object [("error", .text "Init")]

instance : ToJson LoggingProblem where
  toJson problem :=
    match problem with
    | .unknownLevel _ => failureJson "LogLevel" problem.message
    | .unknownFormat _ => failureJson "LogFormat" problem.message
    | .alreadyInstalled => .object [("error", .text "LoggingInitFailed")]

end RequestDispatch
