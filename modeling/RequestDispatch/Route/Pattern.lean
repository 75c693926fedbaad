import RequestDispatch.Exchange.Bindings
import RequestDispatch.Text.Blank
import RequestDispatch.Text.Percent

/-!
Path patterns: literal text with variables between braces. A variable takes one or more characters
other than a slash, as many as it can while the rest still matches, earlier variables first. Paths
are percent-encoded, so a literal character beyond ASCII stands for the escapes of its bytes.
-/

namespace RequestDispatch

inductive PatternProblem where
  | unclosedBrace
  | malformedVariable
  | duplicateVariable (name : String)
  | unmatchedBrace
  deriving DecidableEq, Repr

def PatternProblem.message : PatternProblem → String
  | .unclosedBrace => "unclosed '\x7b'"
  | .malformedVariable => "empty or malformed variable name"
  | .duplicateVariable name => "duplicate variable '" ++ name ++ "'"
  | .unmatchedBrace => "unmatched '\x7d'"

/-- What one character of a path must be: a given character, or a hexadecimal digit of a given
value in either case. -/
inductive Spelling where
  | exact (character : Char)
  | digit (value : Nat)
  deriving DecidableEq, Repr

def Spelling.admits : Spelling → Char → Bool
  | .exact expected, character => expected == character
  | .digit value, character => Text.hexValue? character == some value

/-- A path pattern: a literal, then pieces, each a variable and the literal that follows it. -/
structure PathPattern where
  template : String
  leading : List Char
  pieces : List (String × List Char)

namespace PathPattern

/-- Cuts a template into its leading literal and its variables. The names found so far are given,
and inside of braces what has been read there, in reverse. A closing brace of its own is refused
only behind the last variable. -/
def parse (names : List String) :
    Option (List Char) → List Char → Except PatternProblem (List Char × List (String × List Char))
  | none, [] => .ok ([], [])
  | some _, [] => .error .unclosedBrace
  | none, character :: rest =>
    if character = '\x7b' then parse names (some []) rest
    else if character = '\x7d' ∧ '\x7b' ∉ rest then .error .unmatchedBrace
    else (parse names none rest).map fun (literal, pieces) => (character :: literal, pieces)
  | some inside, character :: rest =>
    if character = '\x7d' then
      let name := String.ofList (Text.trimBoth Text.isBlank inside.reverse)
      if name.isEmpty || name.contains '\x7b' || name.contains '/' then .error .malformedVariable
      else if names.contains name then .error (.duplicateVariable name)
      else
        (parse (names ++ [name]) none rest).map fun (literal, pieces) =>
          ([], (name, literal) :: pieces)
    else parse names (some (character :: inside)) rest

def compile (template : String) : Except PatternProblem PathPattern :=
  (parse [] none template.toList).map fun (leading, pieces) => ⟨template, leading, pieces⟩

def names (pattern : PathPattern) : List String := pattern.pieces.map Prod.fst

def groupOf? (pattern : PathPattern) (name : String) : Option Nat :=
  (pattern.names.idxOf? name).map (· + 1)

def spell (character : Char) : List Spelling :=
  if character.toNat < 0x80 then [.exact character]
  else
    (Text.utf8Bytes (String.ofList [character])).flatMap fun byte =>
      [.exact '%', .digit (byte.toNat / 16), .digit (byte.toNat % 16)]

def dropLiteral : List Spelling → List Char → Option (List Char)
  | [], path => some path
  | _ :: _, [] => none
  | spelling :: spellings, character :: path =>
    if spelling.admits character then dropLiteral spellings path else none

abbrev Captures := List (List Char)

/-- For each rest of a path, the whole path first and the empty rest last, what is captured when a
part of a pattern matches all of it. -/
abbrev Row := List (Option Captures)

def endRow : List Char → Row
  | [] => [some []]
  | _ :: path => none :: endRow path

/-- A literal before the part of a pattern that has the given row. -/
def literalRow (spellings : List Spelling) : List Char → Row → Row
  | path, after =>
    let entry :=
      if (dropLiteral spellings path).isSome then (after.drop spellings.length).head?.join else none
    match path with
    | [] => [entry]
    | _ :: path => entry :: literalRow spellings path after.tail

/-- A variable before the part of a pattern that has the given row. It captures on where the rest
behind still can be matched so, and otherwise ends with this character. -/
def variableRow : List Char → Row → Row
  | [], _ => [none]
  | character :: path, after =>
    let later := variableRow path after.tail
    let entry :=
      if character = '/' then none
      else
        match later.head?.join with
        | some (capture :: captures) => some ((character :: capture) :: captures)
        | _ => after.tail.head?.join.map fun captures => [character] :: captures
    entry :: later

/-- The row of variables and the literals behind them, built from the last to the first: each rest
of the path is looked at once for each piece. -/
def matchRow : List (String × List Char) → List Char → Row
  | [], path => endRow path
  | (_, literal) :: pieces, path =>
    variableRow path (literalRow (literal.flatMap spell) path (matchRow pieces path))

def captures? (pattern : PathPattern) (path : String) : Option (List String) :=
  ((dropLiteral (pattern.leading.flatMap spell) path.toList).bind fun rest =>
    (matchRow pattern.pieces rest).head?.join).map fun captures => captures.map String.ofList

end PathPattern

structure PathMatch where
  names : List String
  groups : List String
  deriving DecidableEq, Repr

namespace PathMatch

def groupCount (found : PathMatch) : Nat := found.groups.length

def raw? (found : PathMatch) (name : String) : Option String :=
  (found.names.idxOf? name).bind fun index => found.groups[index]?

def bindings (found : PathMatch) : PathBindings :=
  found.names.zip (found.groups.map Text.decodeSegment)

end PathMatch

def PathPattern.match? (pattern : PathPattern) (path : String) : Option PathMatch :=
  (pattern.captures? path).map fun groups => ⟨pattern.names, groups⟩

end RequestDispatch
