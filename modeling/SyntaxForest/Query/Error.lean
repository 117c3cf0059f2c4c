import SyntaxForest.Text.Point

/-!
# Query errors

A query that does not compile is refused as a whole, with the place of the first defect in the query
text as it was written. Errors about one identifier echo that identifier; the others echo the line,
with a caret under the place.

## Main definitions

* `QueryError.Kind`: the kinds of defect, with their category
* `QueryError.locate`: the row and the column of an offset
* `QueryError.positioned`: an error with the standard wording for its place
* `QueryError.worded`: an error about a predicate, with a wording of its own
-/

namespace SyntaxForest

/-- The kinds of defect in a query. -/
inductive QueryError.Kind where
  /-- The text is not a query. -/
  | malformed
  /-- The grammar has no node of this kind. -/
  | unknownNodeType
  /-- The grammar has no field of this name. -/
  | unknownField
  /-- No capture of the query has this name. -/
  | unknownCapture
  /-- No tree of the grammar has this shape. -/
  | impossibleStructure
  /-- The grammar cannot be queried. -/
  | grammarMismatch
  /-- The predicate does not begin with an operator. -/
  | malformedPredicate
  /-- The predicate has too few or too many arguments. -/
  | wrongArity
  /-- The predicate has a capture where a string is due, or the reverse. -/
  | wrongArgumentKind
  /-- The predicate's pattern is no regular expression. -/
  | invalidRegex
  deriving DecidableEq, Repr

namespace QueryError.Kind

/-- The category that a message names. -/
def category : Kind → String
  | .malformed => "syntax"
  | .unknownNodeType => "node type"
  | .unknownField => "field"
  | .unknownCapture => "capture"
  | .impossibleStructure => "structure"
  | .grammarMismatch => "language"
  | .malformedPredicate | .wrongArity | .wrongArgumentKind | .invalidRegex => "predicate"

/-- Whether the defect is in one identifier, which the message then echoes. -/
def isAboutIdentifier : Kind → Bool
  | .unknownNodeType | .unknownField | .unknownCapture => true
  | _ => false

/-- Whether the defect is in a predicate. -/
def isAboutPredicate : Kind → Bool
  | .malformedPredicate | .wrongArity | .wrongArgumentKind | .invalidRegex => true
  | _ => false

end QueryError.Kind

/-- Why a query does not compile. Rows and columns count from zero; messages show them from
one. -/
structure QueryError where
  /-- The kind of the defect. -/
  kind : QueryError.Kind
  /-- The byte of the query text where it lies. -/
  offset : Nat
  /-- The point of that byte. -/
  point : Point
  /-- The operator of the predicate that it lies in. -/
  operator : Option Bytes
  /-- The wording. -/
  message : String
  deriving DecidableEq, Repr

namespace QueryError

/-- The bytes that may go on an identifier in a message. -/
def isIdentifierRest (b : UInt8) : Bool :=
  Ascii.isLetter b || Ascii.isDigit b || b = 95 || b = 45

/-- The identifier at an offset, for a message: a letter or an underscore, and on from it the
letters, digits, underscores and dashes. There is none inside a character or past the end. -/
def identifierAt? (source : Bytes) (offset : Nat) : Option Bytes :=
  if Utf8.isBoundary source offset then
    match source.drop offset with
    | [] => none
    | b :: rest =>
      if Ascii.isLetter b || b = 95 then some (b :: rest.takeWhile isIdentifierRest) else none
  else none

/-- The first line of a text, without the line feed that ends it or the carriage return before
that line feed. -/
def firstLine (text : Bytes) : Bytes :=
  let line := text.takeWhile (· ≠ Ascii.newline)
  if line.length < text.length ∧ line.getLast? = some 13 then line.dropLast else line

/-- Where the last line feed of a text stands. -/
def lastNewline? (text : Bytes) : Option Nat :=
  (text.reverse.findIdx? (· = Ascii.newline)).map (text.length - 1 - ·)

/-- The row and the column of an offset. Its line starts behind the last line feed before it; an
offset past the end stands for the end. -/
def locate (source : Bytes) (offset : Nat) : Point :=
  let before := source.take (min offset source.length)
  let lineStart := (lastNewline? before).elim 0 (· + 1)
  ⟨before.countP (· = Ascii.newline), before.length - lineStart⟩

/-- The bytes behind the last line feed are those of the last line. -/
theorem length_sub_lineStart (text : Bytes) :
    text.length - (lastNewline? text).elim 0 (· + 1) = (lastLine text).length := by
  have measured : (lastLine text).length = text.reverse.findIdx (· = Ascii.newline) := by
    rw [lastLine, List.length_reverse, List.takeWhile_eq_take_findIdx_not, List.length_take,
      Nat.min_eq_left List.findIdx_le_length]
    simp only [decide_not, Bool.not_not]
  rw [measured, lastNewline?]
  cases found : text.reverse.findIdx? (· = Ascii.newline) with
  | none =>
    have absent := List.findIdx_eq_length.mpr (List.findIdx?_eq_none_iff.mp found)
    rw [absent, List.length_reverse]
    rfl
  | some k =>
    obtain ⟨bound, rfl⟩ := List.findIdx?_eq_some_iff_findIdx_eq.mp found
    rw [List.length_reverse] at bound
    simp only [Option.map_some, Option.elim_some]
    omega

/-- **The locator of errors gives points.** -/
@[simp] theorem locate_eq_pointAt (source : Bytes) (offset : Nat) :
    locate source offset = pointAt source offset := by
  rw [locate, pointAt, ← List.take_eq_take_min]
  simp only [length_sub_lineStart]
  rfl

/-- The line in which an offset lies. An offset past the end stands for the end. -/
def lineAt (source : Bytes) (offset : Nat) : Bytes :=
  firstLine (source.drop (min offset source.length - (locate source offset).column))

/-- The standard wording for a defect at an offset. -/
def positionedMessage (source : Bytes) (offset : Nat) (kind : Kind) : String :=
  let point := locate source offset
  let place := s!"at line {point.row + 1} column {point.column + 1}"
  if kind.isAboutIdentifier then
    match identifierAt? source offset with
    | some name => s!"invalid {kind.category} '{name.toText}' {place}"
    | none => s!"invalid {kind.category} {place}"
  else
    let indent := String.ofList (List.replicate point.column ' ')
    s!"invalid {kind.category} {place}\n{(lineAt source offset).toText}\n{indent}^"

/-- The error of a kind at an offset of the query text, in the standard wording. -/
def positioned (source : Bytes) (offset : Nat) (kind : Kind) : QueryError :=
  ⟨kind, offset, locate source offset, none, positionedMessage source offset kind⟩

/-- The error of a kind at an offset of the query text, in a wording of its own. -/
def worded (source : Bytes) (offset : Nat) (kind : Kind) (operator : Option Bytes)
    (message : String) : QueryError :=
  ⟨kind, offset, locate source offset, operator, message⟩

@[simp] theorem point_positioned (source : Bytes) (offset : Nat) (kind : Kind) :
    (positioned source offset kind).point = pointAt source offset :=
  locate_eq_pointAt source offset

@[simp] theorem point_worded (source : Bytes) (offset : Nat) (kind : Kind)
    (operator : Option Bytes) (message : String) :
    (worded source offset kind operator message).point = pointAt source offset :=
  locate_eq_pointAt source offset

end QueryError

end SyntaxForest
