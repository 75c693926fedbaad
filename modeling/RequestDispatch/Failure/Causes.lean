import RequestDispatch.Conversion.Converter
import RequestDispatch.Exchange.Headers
import RequestDispatch.Route.Mapping

/-!
The causes of failures, one type for each part of a dispatch, with their texts.
-/

namespace RequestDispatch

inductive ParameterSource where
  | query | path | header | session | requestAttribute | interceptSlot | container
  deriving DecidableEq, Repr

def ParameterSource.name : ParameterSource → String
  | .query => "query"
  | .path => "path"
  | .header => "header"
  | .session => "session"
  | .requestAttribute => "request attribute"
  | .interceptSlot => "intercept slot"
  | .container => "container"

inductive ContainerError where
  | beanNotFound (type : TypeKey) (qualifier : Option String)
  | noUniqueBean (type : TypeKey) (names : List String)
  | duplicateBean (type : TypeKey) (name : String)
  | typeMismatch (name expected : String)
  deriving DecidableEq, Repr

def ContainerError.message : ContainerError → String
  | .beanNotFound type qualifier =>
    let suffix :=
      match qualifier with
      | some name => " with qualifier '" ++ name ++ "'"
      | none => ""
    "No bean of type '" ++ type.name ++ "' found" ++ suffix
  | .noUniqueBean type names =>
    "Expected a single bean of type '" ++ type.name ++ "' but found " ++ toString names.length ++
      ": " ++ Text.quotedList names
  | .duplicateBean type name =>
    "Bean '" ++ name ++ "' is already registered for type '" ++ type.name ++ "'"
  | .typeMismatch name expected => "Bean '" ++ name ++ "' cannot be cast to '" ++ expected ++ "'"

inductive InterceptionError where
  | unresolved (method : MethodKey) (type : TypeKey) (cause : ContainerError)
  | notAnInterceptor (type : TypeKey)
  deriving DecidableEq, Repr

def InterceptionError.message : InterceptionError → String
  | .unresolved method type cause =>
    "Failed to resolve interceptor '" ++ type.name ++ "' for " ++ method.qualified ++ ": " ++
      cause.message
  | .notAnInterceptor type => "Bean '" ++ type.name ++ "' is not a MethodInterceptor"

inductive ViewError where
  | noRenderer (view : String)
  | rendering (view cause : String)
  | initialization (cause : String)
  deriving DecidableEq, Repr

def ViewError.message : ViewError → String
  | .noRenderer view => "No view renderer found for view '" ++ view ++ "'"
  | .rendering view cause => "Failed to render view '" ++ view ++ "': " ++ cause
  | .initialization cause => "Failed to initialize templates: " ++ cause

inductive ConfigurationProblem where
  | route (problem : RouteProblem)
  | undeclaredVariable (parameter name mapping : String)
  | noCollectionAdapter (parameter : String) (type : TypeKey)
  | unconvertible (parameter : String) (cause : ConvertError)
  | duplicateMethod (method controller : String)
  | duplicateController (controller : String)
  | includeOutsideDispatch
  | within (method : MethodKey) (problem : ConfigurationProblem)
  | other (text : String)
  deriving DecidableEq, Repr

def ConfigurationProblem.message : ConfigurationProblem → String
  | .route problem => problem.message
  | .undeclaredVariable parameter name mapping =>
    "Parameter '" ++ parameter ++ "' binds path variable '" ++ name ++
      "' which is not declared by " ++ mapping
  | .noCollectionAdapter parameter type =>
    "Parameter '" ++ parameter ++ "': no collection adapter registered for '" ++ type.name ++ "'"
  | .unconvertible parameter cause => "Parameter '" ++ parameter ++ "': " ++ cause.message
  | .duplicateMethod method controller =>
    "Duplicate handler method '" ++ method ++ "' on " ++ controller
  | .duplicateController controller =>
    "Controller " ++ controller ++ " is registered more than once"
  | .includeOutsideDispatch => "include() called outside of a dispatch"
  | .within method problem => method.signature ++ ": " ++ problem.message
  | .other text => text

end RequestDispatch
