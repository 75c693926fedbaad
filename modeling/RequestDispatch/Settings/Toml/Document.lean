import RequestDispatch.Settings.Environment
import RequestDispatch.Settings.Toml.Scalar

/-!
TOML documents. Keys and headers build up a tree in which every table knows how it came to be, since
that decides whether it may still be extended. The settings of a document are the leaves of the tree
under the dotted paths that lead to them.
-/

namespace RequestDispatch
namespace Toml

/-- How a table came to be: by a header of its own, on the way to one, by a dotted key, or between
braces as a value. -/
inductive TableOrigin where
  | header
  | implied
  | dotted
  | braces
  deriving DecidableEq, Repr

inductive Node where
  /-- A text between quotes. -/
  | quoted (content : String)
  /-- Any other scalar. -/
  | scalar (value : Setting)
  | list (items : List Node)
  | table (origin : TableOrigin) (children : List (String × Node))
  /-- Tables with one header, the newest last. -/
  | tables (elements : List (List (String × Node)))

abbrev Children := List (String × Node)

def putChild (key : String) (node : Node) : Children → Children
  | [] => [(key, node)]
  | child :: rest => if child.1 = key then (key, node) :: rest else child :: putChild key node rest

def putLast (key : String) (node : Node) (children : Children) : Children :=
  children.filter (fun child => child.1 != key) ++ [(key, node)]

/-- Changes the table at the end of a path. Tables that are missing on the way are made. Dotted keys
do not lead through tables with headers of their own, and no path leads through a value. -/
def alterAt (byDots : Bool) (change : TableOrigin → Children → Option Children) :
    TableOrigin → List String → Children → Option Children
  | origin, [], children => change origin children
  | _, step :: rest, children =>
    match children.lookup step with
    | none =>
      let origin := if byDots then TableOrigin.dotted else .implied
      (alterAt byDots change origin rest []).map fun inner =>
        putChild step (.table origin inner) children
    | some (.table origin inner) =>
      if origin = .braces || byDots && origin = .header then none
      else
        (alterAt byDots change origin rest inner).map fun inner =>
          putChild step (.table origin inner) children
    | some (.tables elements) =>
      (alterAt byDots change .header rest (elements.getLastD [])).map fun inner =>
        putChild step (.tables (elements.dropLast ++ [inner])) children
    | some _ => none

/-- Adds a value under a dotted key to a table. The key must be new, and a table that is extended by
dots must have been made by dots. -/
def addValue (path : List String) (key : String) (value : Node) (children : Children) :
    Option Children :=
  alterAt true (fun origin children =>
    if (origin = .dotted) = path.isEmpty then none
    else if (children.lookup key).isSome then none
    else some (putChild key value children)) .header path children

/-- Opens the table of a header. One that was met on the way to another takes its place in the order
of the keys only now. -/
def openTable (path : List String) (key : String) (root : Children) : Option Children :=
  alterAt false (fun _ children =>
    match children.lookup key with
    | none => some (putChild key (.table .header []) children)
    | some (.table .implied inner) => some (putLast key (.table .header inner) children)
    | _ => none) .header path root

def openElement (path : List String) (key : String) (root : Children) : Option Children :=
  alterAt false (fun _ children =>
    match children.lookup key with
    | none => some (putChild key (.tables [[]]) children)
    | some (.tables elements) => some (putChild key (.tables (elements ++ [[]])) children)
    | _ => none) .header path root

def momentKey : String := "$__toml_private_datetime"

mutual

def Node.setting? : Node → Option Setting
  | .quoted content => some (.text content)
  | .scalar value => some value
  | .list items => (itemSettings? items).map .list
  | .table _ children => tableSetting? children
  | .tables elements => (elementSettings? elements).map .list

def itemSettings? : List Node → Option (List Setting)
  | [] => some []
  | item :: rest => do
    let value ← item.setting?
    let values ← itemSettings? rest
    some (value :: values)

/-- The setting of a table. If its first key is the one of a moment, the text under it counts and
nothing else does. -/
def tableSetting? : Children → Option Setting
  | [] => some (.table [])
  | (key, node) :: rest =>
    if key = momentKey then
      match node with
      | .quoted content => (momentText? content.toList).map .text
      | _ => none
    else do
      let value ← node.setting?
      let values ← fieldSettings? rest
      some (.table ((key, value) :: values))

def fieldSettings? : Children → Option (List (String × Setting))
  | [] => some []
  | (key, node) :: rest => do
    let value ← node.setting?
    let values ← fieldSettings? rest
    some ((key, value) :: values)

def elementSettings? : List Children → Option (List Setting)
  | [] => some []
  | children :: rest => do
    let value ← tableSetting? children
    let values ← elementSettings? rest
    some (value :: values)

end

def isBareKeyChar (character : Char) : Bool :=
  character.isAlphanum || character = '_' || character = '-'

def readStep (text : List Char) : Option (String × List Char) :=
  match text with
  | '"' :: rest => readBasic [] rest
  | '\x27' :: rest => readLiteral [] rest
  | _ =>
    let step := text.takeWhile isBareKeyChar
    if step.isEmpty then none else some (String.ofList step, text.dropWhile isBareKeyChar)

/-- How many steps a key may have, and how deep lists and tables between braces may be nested. -/
def nestingLimit : Nat := 79

/-- Reads the steps of a dotted key, with blanks around each: those before the last, and the last.
There may be as many steps as the number says. -/
def readKey : Nat → List Char → Option ((List String × String) × List Char)
  | 0, _ => none
  | fuel + 1, text => do
    let (step, rest) ← readStep (skipBlanks text)
    match skipBlanks rest with
    | '.' :: rest => do
      let ((path, key), rest) ← readKey fuel rest
      some ((step :: path, key), rest)
    | rest => some (([], step), rest)

def skipFiller (commented : Bool) : List Char → Option (List Char)
  | '\n' :: rest => skipFiller false rest
  | '\r' :: '\n' :: rest => skipFiller false rest
  | character :: rest =>
    if commented then (if isPrintable character then skipFiller true rest else none)
    else if isBlank character then skipFiller false rest
    else if character = '#' then skipFiller true rest
    else some (character :: rest)
  | [] => some []

def endLine (text : List Char) : Option (List Char) :=
  let rest :=
    match skipBlanks text with
    | '#' :: comment => comment.dropWhile isPrintable
    | rest => rest
  match rest with
  | [] => some []
  | '\n' :: rest => some rest
  | '\r' :: '\n' :: rest => some rest
  | _ => none

mutual

/-- Reads a value. Every value, item and field takes one unit of fuel, every list and table one of
nesting. -/
def readValue : Nat → Nat → List Char → Option (Node × List Char)
  | 0, _, _ => none
  | fuel + 1, nesting + 1, '[' :: rest =>
    (readItems fuel nesting rest).map fun (items, rest) => (.list items, rest)
  | fuel + 1, nesting + 1, '\x7b' :: rest =>
    match skipBlanks rest with
    | '\x7d' :: rest => some (.table .braces [], rest)
    | rest =>
      (readFields fuel nesting [] rest).map fun (fields, rest) => (.table .braces fields, rest)
  | _ + 1, _, text =>
    match text with
    | '"' :: _ | '\x27' :: _ =>
      (readString text).map fun (content, rest) => (.quoted content, rest)
    | _ => (readScalar text).map fun (value, rest) => (.scalar value, rest)

def readItems : Nat → Nat → List Char → Option (List Node × List Char)
  | 0, _, _ => none
  | fuel + 1, nesting, text => do
    let text ← skipFiller false text
    match text with
    | ']' :: rest => some ([], rest)
    | text => do
      let (item, rest) ← readValue fuel nesting text
      let rest ← skipFiller false rest
      match rest with
      | ']' :: rest => some ([item], rest)
      | ',' :: rest => do
        let (items, rest) ← readItems fuel nesting rest
        some (item :: items, rest)
      | _ => none

def readFields : Nat → Nat → Children → List Char → Option (Children × List Char)
  | 0, _, _, _ => none
  | fuel + 1, nesting, children, text => do
    let ((path, key), rest) ← readKey nestingLimit text
    match rest with
    | '=' :: rest => do
      let (value, rest) ← readValue fuel nesting (skipBlanks rest)
      let children ← addValue path key value children
      match skipBlanks rest with
      | '\x7d' :: rest => some (children, rest)
      | ',' :: rest => readFields fuel nesting children rest
      | _ => none
    | _ => none

end

def readHeader (closing text : List Char) : Option ((List String × String) × List Char) := do
  let (key, rest) ← readKey nestingLimit text
  let rest ← Text.dropBeginning closing rest
  let rest ← endLine rest
  some (key, rest)

/-- Reads the lines of a document. The path leads to the table that pairs are added to. Every line
takes one unit of fuel. -/
def readLines : Nat → List String → Children → List Char → Option Children
  | 0, _, _, _ => none
  | fuel + 1, current, root, text =>
    match skipBlanks text with
    | [] => some root
    | '\n' :: rest => readLines fuel current root rest
    | '\r' :: '\n' :: rest => readLines fuel current root rest
    | '#' :: rest => (endLine ('#' :: rest)).bind (readLines fuel current root)
    | '[' :: '[' :: rest => do
      let ((path, key), rest) ← readHeader [']', ']'] rest
      let root ← openElement path key root
      readLines fuel (path ++ [key]) root rest
    | '[' :: rest => do
      let ((path, key), rest) ← readHeader [']'] rest
      let root ← openTable path key root
      readLines fuel (path ++ [key]) root rest
    | text => do
      let ((path, key), rest) ← readKey nestingLimit text
      match rest with
      | '=' :: rest => do
        let (value, rest) ← readValue (rest.length + 1) nestingLimit (skipBlanks rest)
        let rest ← endLine rest
        let root ← alterAt false (fun _ children => addValue path key value children) .header
          current root
        readLines fuel current root rest
      | _ => none

/-- Reads a document as a setting, nearly always a table. A mark of the byte order may stand in
front of it. -/
def parse? (text : String) : Option Setting :=
  let lines :=
    match text.toList with
    | '\uFEFF' :: rest => rest
    | lines => lines
  (readLines (lines.length + 1) [] [] lines).bind tableSetting?

mutual

def flatten (path : String) (settings : Entries Setting) : Setting → Entries Setting
  | .table entries => flattenFields path settings entries
  | value => settings.insert path value

def flattenFields (path : String) (settings : Entries Setting) :
    List (String × Setting) → Entries Setting
  | [] => settings
  | (key, value) :: rest =>
    let inner := if path.isEmpty then key else path ++ "." ++ key
    flattenFields path (flatten inner settings value) rest

end

mutual

/-- The setting with the entries of all tables in ascending order of their keys. -/
def sortTables : Setting → Setting
  | .table entries => .table (sortFields entries)
  | .list items => .list (sortItems items)
  | value => value

def sortFields : List (String × Setting) → List (String × Setting)
  | [] => []
  | (key, value) :: rest => Entries.insert key (sortTables value) (sortFields rest)

def sortItems : List Setting → List Setting
  | [] => []
  | item :: rest => sortTables item :: sortItems rest

end

/-- The settings of a document under dotted keys. Of two paths with one spelling the one that comes
later in the order of the keys counts. -/
def settings? (text : String) : Option (Entries Setting) :=
  (parse? text).map fun setting => flatten "" [] (sortTables setting)

end Toml

def PropertySource.ofToml (name text : String) : Except SettingsProblem PropertySource :=
  match Toml.settings? text with
  | some entries => .ok ⟨name, 0, .fixed entries⟩
  | none => .error (.malformed name "")

end RequestDispatch
