import SyntaxForest.Regex.Parser
import SyntaxForest.Text.Reading
import SyntaxForest.Unicode.Properties

/-!
# Log filters

A log filter is a list of directives, apart by commas. A directive names a level, a target, or a
span with fields, and a level for them. Only its validity matters here, since nothing is logged.

## Main definitions

* `LogFilter.isLevel`: the names and numbers of levels
* `LogFilter.DirectiveState`, `LogFilter.step`: a directive, read one character at a time
* `LogFilter.isValid`: the filters that are accepted
-/

namespace SyntaxForest.Command.LogFilter

/-- The digits of a number, behind a plus sign if there is one. -/
def digitsOf : List Char → List Char
  | '+' :: rest => rest
  | text => text

/-- The name of a level or its number; no text at all stands for a level, too. -/
def isLevel (text : List Char) : Bool :=
  let digits := digitsOf text
  let isNumber :=
    digits ≠ [] && digits.all Char.isDigit && Numeral.value 10 digits ≤ 5
  let name := String.ofList (text.map Char.toLower)
  isNumber || ["", "error", "warn", "info", "debug", "trace", "off"].contains name

/-- A field of a span: a name, with a value that is a regular expression unless it is a
plain one. -/
def isField (text : List Char) : Bool :=
  match text.dropWhile (· ≠ '=') with
  | [] => text ≠ []
  | _ :: rest =>
    let value := rest.takeWhile (· ≠ '=')
    match Regex.parse value with
    | .ok _ => true
    | .error _ => false

/-- What has been read of a directive, with the position where the part under way began. -/
inductive DirectiveState where
  /-- Nothing. -/
  | start
  /-- A part of a level or a target. -/
  | levelOrTarget
  /-- A part of the name of a span. -/
  | span
  /-- A part of a field. -/
  | field (start : Nat)
  /-- All fields. -/
  | fields
  /-- A span. -/
  | target
  /-- A part of a level. -/
  | level (start : Nat)
  deriving DecidableEq, Repr

/-- The state after the character at position `i`; none where a directive cannot go on with it.
Parts are cut out of the whole directive, blanks at its ends included. -/
def step (directive : List Char) (i : Nat) (c : Char) : DirectiveState → Option DirectiveState
  | .start =>
    if c = '[' then some .span
    else if c = '-' || c = ':' || c = '_' || Unicode.isAlphanumeric c then some .levelOrTarget
    else none
  | .levelOrTarget =>
    if c = '=' then some (.level (i + 1)) else if c = '[' then some .span else some .levelOrTarget
  | .span =>
    if c = ']' then some .target else if c = '\x7b' then some (.field (i + 1)) else some .span
  | .field start =>
    if c = '\x7d' then
      if isField ((directive.take i).drop start) then some .fields else none
    else some (.field start)
  | .fields => if c = ']' then some .target else none
  | .target => if c = '=' then some (.level (i + 1)) else none
  | .level start => some (.level start)

/-- Reads a directive on from a state. -/
def run (directive : List Char) (i : Nat) (q : DirectiveState) : List Char → Option DirectiveState
  | [] => some q
  | c :: rest => (step directive i c q).bind (run directive (i + 1) · rest)

/-- A text without the white space at its ends. -/
def trim (text : List Char) : List Char :=
  ((text.dropWhile Unicode.isWhiteSpace).reverse.dropWhile Unicode.isWhiteSpace).reverse

/-- A directive that is accepted. -/
def isDirective (directive : List Char) : Bool :=
  match run directive 0 .start (trim directive) with
  | some .levelOrTarget | some .target => true
  | some (.level start) => isLevel (directive.drop start)
  | _ => false

/-- A filter that is accepted. -/
def isValid (filter : String) : Bool :=
  ((filter.toList.splitOn ',').filter (· ≠ [])).all isDirective

end SyntaxForest.Command.LogFilter
