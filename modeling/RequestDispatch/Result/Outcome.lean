import RequestDispatch.Exchange.Stream
import RequestDispatch.Failure.Basic
import RequestDispatch.View.Renderer

/-!
Outcomes: what becomes of the value that a handler returns. The declared outcomes are tried in a
fixed order, and the first that applies is the only one that takes effect.
-/

namespace RequestDispatch

inductive Outcome where
  /-- Renders a view: the one whose name the template gives, the one the value names, or the
  default view. -/
  | view (template : Option String)
  /-- Writes the value into the body. -/
  | write
  /-- Sends the client to where the template or the value says. -/
  | redirect (template : Option String)
  | status (code : Nat) (message : Option String)
  deriving DecidableEq, Repr

def fillTemplate (template : String) (value : Value) : String :=
  let shown := value.display.toList
  let rec fill : List Char → List Char
    | '\x7b' :: '0' :: '\x7d' :: rest => shown ++ fill rest
    | character :: rest => character :: fill rest
    | [] => []
  String.ofList (fill template.toList)

namespace Outcome

def rank : Outcome → Nat
  | .view _ => 0
  | .write => 1
  | .redirect _ => 2
  | .status _ _ => 3

/-- The outcomes in the order in which they are tried; those of one kind keep their order. -/
def sort (outcomes : List Outcome) : List Outcome :=
  outcomes.mergeSort fun first second => first.rank ≤ second.rank

def inspect : Outcome → String
  | .view template => "View(" ++ option template ++ ")"
  | .write => "Write"
  | .redirect template => "Redirect(" ++ option template ++ ")"
  | .status code message =>
    "Status \x7b code: " ++ toString code ++ ", message: " ++ option message ++ " \x7d"
where
  option : Option String → String
    | some text => "Some(" ++ Text.quoted text ++ ")"
    | none => "None"

def viewName (template defaultView : Option String) (value : Value) : String :=
  match template with
  | some template => fillTemplate template value
  | none => (value.asText?.or defaultView).getD ""

/-- The model of a view: the entries of a map by the texts of their keys, and the value itself as
the result. -/
def model (value : Value) : Model :=
  let entries : Model :=
    match value with
    | .map entries => .ofList (entries.map fun (key, held) => (key.display, held))
    | _ => []
  entries.insert "result" value

def target (template : Option String) (value : Value) : String :=
  match template with
  | some template => fillTemplate template value
  | none => value.display

def plainText : String := "text/plain; charset=utf-8"

def someBytes : String := "application/octet-stream"

variable {State : Type}

def respondBytes (exchange : Exchange State) (contentType : String) (bytes : List UInt8) :
    Exchange State :=
  exchange.respond fun sink => (sink.defaultContentType contentType).write bytes

def respondText (exchange : Exchange State) (contentType text : String) : Exchange State :=
  respondBytes exchange contentType (Text.utf8Bytes text)

def applyView (views : Option Renderer) (template defaultView : Option String) (value : Value)
    (exchange : Exchange State) : Except DispatchError (Option (Exchange State)) :=
  let name := viewName template defaultView value
  if name.isEmpty then .ok none
  else
    match views with
    | none => .error (.view (.noRenderer name))
    | some renderer =>
      match renderer.render name (model value) with
      | .error cause => .error (.view cause)
      | .ok page => .ok (some (respondText exchange renderer.contentType page))

/-- Writes a value into the body. Null and objects that have nothing to read are not written. An
object that is read stays read, whatever comes of it. -/
def applyWrite (value : Value) (exchange : Exchange State) :
    Except DispatchError (Option (Exchange State)) × Exchange State :=
  match value with
  | .null => (.ok none, exchange)
  | .bytes bytes => (.ok (some (respondBytes exchange someBytes bytes)), exchange)
  | .object object =>
    let (reading, drained) := object.drain exchange.drained
    let exchange := { exchange with drained := drained }
    match reading with
    | .noStream | .exhausted => (.ok none, exchange)
    | .failed reason => (.error (.handler (.stream reason)), exchange)
    | .bytes bytes => (.ok (some (respondBytes exchange someBytes bytes)), exchange)
  | other => (.ok (some (respondText exchange plainText other.display)), exchange)

def applyRedirect (template : Option String) (value : Value) (exchange : Exchange State) :
    Except DispatchError (Option (Exchange State)) :=
  let location := target template value
  if location.isEmpty then .ok none
  else
    match exchange.sink.redirect location with
    | .error problem => .error (.invalidHeader problem)
    | .ok sink => .ok (some { exchange with sink := sink })

def applyStatus (code : Nat) (message : Option String) (value : Value) (exchange : Exchange State) :
    Exchange State :=
  let exchange := exchange.respond fun sink => sink.setStatus code
  match message with
  | none => exchange
  | some message => respondText exchange plainText (fillTemplate message value)

/-- Tries one outcome: the exchange with its effect if it applies, and the exchange as the attempt
leaves it. -/
def attempt (views : Option Renderer) (defaultView : Option String) (value : Value)
    (exchange : Exchange State) :
    Outcome → Except DispatchError (Option (Exchange State)) × Exchange State
  | .view template => (applyView views template defaultView value exchange, exchange)
  | .write => applyWrite value exchange
  | .redirect template => (applyRedirect template value exchange, exchange)
  | .status code message => (.ok (some (applyStatus code message value exchange)), exchange)

/-- Tries outcomes in turn until one applies or fails. Without one the response stays as it is. -/
def applyFirst (views : Option Renderer) (defaultView : Option String) (value : Value) :
    List Outcome → Exchange State → Except DispatchError Unit × Exchange State
  | [], exchange => (.ok (), exchange)
  | outcome :: rest, exchange =>
    match outcome.attempt views defaultView value exchange with
    | (.error error, exchange) => (.error error, exchange)
    | (.ok (some applied), _) => (.ok (), applied)
    | (.ok none, exchange) => applyFirst views defaultView value rest exchange

end Outcome
end RequestDispatch
