import SyntaxForest.Proofs.Text.Boundaries
import SyntaxForest.Query.Extraction

/-!
# The pass with its checks

The pass over a query as a cursor makes it, which moves over the bytes of the whole text by loops
and cuts what it reads out of the text. What can go wrong on bytes is checked as it happens, and the
pass faults where a check fails:

* a turn of a loop that goes on must have consumed a byte, and none behind the end of the text;
* a piece must lie in the text and be cut between two of its characters;
* bytes that are taken for a text must lose nothing when they are read tolerantly.

## Main definitions

* `Checked.loop`: turns that are taken until one leaves
* `Checked.cut`, `Checked.spell`: pieces that are cut out, and texts
* `Checked.readString`, `Checked.readArgument`, `Checked.readForm`: the readers, each with the
  offset where it ends
* `Checked.extract`: the structural text and the forms of a query, if no check fails
-/

namespace SyntaxForest.Query.Checked

open Utf8

/-- Why the pass halts before the end of the query. -/
inductive Halt where
  /-- The query has a defect. -/
  | defect (d : Defect)
  /-- A check fails. -/
  | fault
  deriving DecidableEq, Repr

/-- What a turn of a loop comes to. -/
inductive Turn (σ β : Type) where
  /-- The loop goes on at an offset, with what has been gathered. -/
  | again (offset : Nat) (gathered : σ)
  /-- The loop ends. -/
  | leave (result : β)

/-- Takes turns from an offset on until one leaves the loop. Every other turn must consume at least
one byte, and none behind the end of the text. -/
def loop {σ β : Type} (length : Nat) (turn : Nat → σ → Except Halt (Turn σ β)) (offset : Nat)
    (gathered : σ) : Except Halt β :=
  match turn offset gathered with
  | .error h => .error h
  | .ok (.leave result) => .ok result
  | .ok (.again next gathered) =>
    if _h : offset < next ∧ next ≤ length then loop length turn next gathered else .error .fault
termination_by length - offset

/-- The piece of a text between two offsets, which must lie between characters. -/
def cut (text : Bytes) (start stop : Nat) : Except Halt Bytes :=
  match slice? text start stop with
  | some piece => .ok piece
  | none => .error .fault

/-- What the bytes spell when they are read tolerantly, which must be the bytes themselves. -/
def spell (bytes : Bytes) : Except Halt Bytes :=
  let text := Bytes.ofText bytes.toText
  if text = bytes then .ok text else .error .fault

section Readers

variable (source : Bytes)

/-- A turn that passes a byte of a kind. -/
def skipTurn (kind : UInt8 → Bool) (offset : Nat) (_ : Unit) : Except Halt (Turn Unit Nat) :=
  match source[offset]? with
  | none => .ok (.leave offset)
  | some b => if kind b then .ok (.again (offset + 1) ()) else .ok (.leave offset)

/-- The offset behind a run of bytes of a kind. -/
def skip (kind : UInt8 → Bool) (offset : Nat) : Except Halt Nat :=
  loop source.length (skipTurn source kind) offset ()

/-- The offset behind a comment. -/
def skipComment (offset : Nat) : Except Halt Nat := skip source (· ≠ Ascii.newline) offset

/-- A turn that passes a comment or a byte of white space. -/
def triviaTurn (offset : Nat) (_ : Unit) : Except Halt (Turn Unit Nat) :=
  match source[offset]? with
  | none => .ok (.leave offset)
  | some b =>
    if b = Ascii.semicolon then (skipComment source offset).map fun stop => .again stop ()
    else if Ascii.isBlank b then .ok (.again (offset + 1) ())
    else .ok (.leave offset)

/-- The offset behind white space and comments. -/
def skipTrivia (offset : Nat) : Except Halt Nat :=
  loop source.length (triviaTurn source) offset ()

/-- Reads a name, which may be empty. -/
def readName (offset : Nat) : Except Halt (Bytes × Nat) := do
  let stop ← skip source isIdentifierByte offset
  let name ← cut source offset stop
  return (name, stop)

/-- A turn that reads one byte of the string that opened at `start`, or the two of an escape. -/
def stringTurn (start offset : Nat) (value : Bytes) : Except Halt (Turn Bytes (Bytes × Nat)) :=
  match source[offset]? with
  | none => .error (.defect ⟨.malformed, start⟩)
  | some b =>
    if b = Ascii.quote then .ok (.leave (value, offset + 1))
    else if b = Ascii.backslash then
      -- The next byte is taken whatever it is, and may be the first of several.
      match source[offset + 1]? with
      | none => .error (.defect ⟨.malformed, start⟩)
      | some e => .ok (.again (offset + 2) (value ++ [unescape e]))
    else .ok (.again (offset + 1) (value ++ [b]))

/-- Reads the string that opens at an offset. -/
def readString (start : Nat) : Except Halt (Bytes × Nat) := do
  let (value, stop) ← loop source.length (stringTurn source start) (start + 1) []
  let text ← spell value
  return (text, stop)

/-- Reads the argument that begins with byte `b` at an offset. -/
def readArgument (offset : Nat) (b : UInt8) : Except Halt (Argument × Nat) :=
  if b = Ascii.atSign then do
    let (name, stop) ← readName source (offset + 1)
    if name = [] then .error (.defect ⟨.malformed, offset⟩)
    else return (.capture name (offset + 1), stop)
  else if b = Ascii.quote then do
    let (value, stop) ← readString source offset
    return (.literal value offset, stop)
  else if isIdentifierByte b then do
    let (word, stop) ← readName source offset
    return (.literal word offset, stop)
  else .error (.defect ⟨.malformed, offset⟩)

/-- A turn that reads an argument of the form that opened at `start`, or its closing parenthesis. -/
def argumentTurn (start offset : Nat) (arguments : List Argument) :
    Except Halt (Turn (List Argument) (List Argument × Nat)) := do
  let offset ← skipTrivia source offset
  match source[offset]? with
  | none => .error (.defect ⟨.malformed, start⟩)
  | some b =>
    if b = Ascii.closeParen then return .leave (arguments, offset + 1)
    else
      let (argument, stop) ← readArgument source offset b
      return .again stop (arguments ++ [argument])

/-- Whether the byte at an offset opens a form. Only behind a parenthesis is the text cut. -/
def opensFormAt (offset : Nat) (b : UInt8) : Except Halt Bool :=
  if b = Ascii.openParen then (cut source (offset + 1) source.length).map opensForm
  else .ok false

/-- Reads the form that opens at an offset. -/
def readForm (start : Nat) : Except Halt (RawPredicate × Nat) := do
  let hash ← skipTrivia source (start + 1)
  -- The hash sign itself is not looked at again.
  let (operator, stop) ← readName source (hash + 1)
  let (arguments, stop) ← loop source.length (argumentTurn source start) stop []
  return (⟨start, if operator = [] then none else some operator, arguments⟩, stop)

/-- Blanks what stands between two offsets of the structural text. -/
def blankBetween (structural : Bytes) (start stop : Nat) : Except Halt Bytes := do
  let form ← cut structural start stop
  return structural.take start ++ (blank form ++ structural.drop stop)

/-- How far the pass has come. -/
structure Progress where
  /-- The number of brackets that are open. -/
  depth : Nat
  /-- The query, with the forms so far blanked. -/
  structural : Bytes
  /-- The forms so far. -/
  predicates : List RawPredicate

/-- A turn that reads a form and blanks it. -/
def formTurn (offset : Nat) (p : Progress) : Except Halt (Turn Progress Extraction) :=
  if p.depth = 0 then .error (.defect ⟨.impossibleStructure, offset⟩)
  else do
    let (form, stop) ← readForm source offset
    let structural ← blankBetween p.structural offset stop
    return .again stop ⟨p.depth, structural, p.predicates ++ [form]⟩

/-- A turn that reads a bracket, a capture name or another byte `b`. -/
def byteTurn (offset : Nat) (b : UInt8) (p : Progress) : Except Halt (Turn Progress Extraction) :=
  if b = Ascii.openParen || b = Ascii.openBracket then
    .ok (.again (offset + 1) { p with depth := p.depth + 1 })
  else if b = Ascii.closeParen || b = Ascii.closeBracket then
    .ok (.again (offset + 1) { p with depth := p.depth - 1 })
  else if b = Ascii.atSign then
    (readName source (offset + 1)).map fun name => .again name.2 p
  else .ok (.again (offset + 1) p)

/-- A turn that reads what begins at an offset. At the end of the text, the structural text is
spelled. -/
def scanTurn (offset : Nat) (p : Progress) : Except Halt (Turn Progress Extraction) :=
  match source[offset]? with
  | none => (spell p.structural).map fun structural => .leave ⟨structural, p.predicates⟩
  | some b =>
    if b = Ascii.semicolon then (skipComment source offset).map fun stop => .again stop p
    else if b = Ascii.quote then (readString source offset).map fun string => .again string.2 p
    else do
      let opens ← opensFormAt source offset b
      if opens then formTurn source offset p else byteTurn source offset b p

/-- Takes the whole query apart. -/
def scan : Except Halt Extraction :=
  loop source.length (scanTurn source) 0 ⟨0, source, []⟩

/-- Reports a defect, with the line cut out of the query that is echoed. -/
def report (d : Defect) : Except Halt QueryError := do
  let start := min d.offset source.length - (QueryError.locate source d.offset).column
  let _ ← cut source start source.length
  return d.report source

/-- Takes a query apart into its structural text and its forms. The result is a fault where a check
fails. -/
def extract : Except Halt (Except QueryError Extraction) :=
  match scan source with
  | .ok e => .ok (.ok e)
  | .error (.defect d) => (report source d).map .error
  | .error .fault => .error .fault

end Readers

end SyntaxForest.Query.Checked
