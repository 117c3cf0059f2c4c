import SyntaxForest.Query.Error

/-!
# Predicate forms in query text

A query holds structural patterns, which the engine matches, and predicate forms such as `(#eq? @a
@b)`, which are evaluated here. Extraction reads the text once from left to right, replaces every
form by spaces, so that offsets keep their meaning, and returns the forms in source order.

A form is a parenthesis followed, after white space, by a hash sign; it must stand inside a bracket.
Comments run from a semicolon to the end of the line. A string runs from quote to quote, where a
backslash takes the next byte.

## Main definitions

* `Argument`, `RawPredicate`: a form as it was written
* `stringBody`, `readArgument`, `readArguments`, `readForm`: the readers, each with the number of
  bytes that it read
* `Lexeme`, `readLexeme`, `scan`: the pass over the text
* `extract`: the structural text and the forms
-/

namespace SyntaxForest.Query

/-- An argument of a predicate form, with the offset where it was written. -/
inductive Argument where
  /-- A capture, at the byte after its at sign. -/
  | capture (name : Bytes) (offset : Nat)
  /-- A string, at its opening quote, or a bare word, at its first byte. -/
  | literal (value : Bytes) (offset : Nat)
  deriving DecidableEq, Repr

/-- Where the argument was written. -/
def Argument.offset : Argument → Nat
  | .capture _ offset => offset
  | .literal _ offset => offset

/-- A predicate form as it was written. -/
structure RawPredicate where
  /-- The offset of the opening parenthesis. -/
  offset : Nat
  /-- The operator, if the form begins with one. -/
  operator : Option Bytes
  /-- The arguments, in order. -/
  arguments : List Argument
  deriving DecidableEq, Repr

/-- A query taken apart. -/
structure Extraction where
  /-- The query text with a space for every byte of a form that is no line feed. -/
  structural : Bytes
  /-- The forms, in source order. -/
  predicates : List RawPredicate
  deriving DecidableEq, Repr

/-- A place where the text cannot be read. -/
structure Defect where
  /-- The kind of error that it is. -/
  kind : QueryError.Kind
  /-- The byte where it lies. -/
  offset : Nat
  deriving DecidableEq, Repr

/-- The bytes of names and bare words: letters, digits, `_`, `-`, `.`, `?`, `!` and every byte
that is not ASCII. -/
def isIdentifierByte (b : UInt8) : Bool :=
  Ascii.isLetter b || Ascii.isDigit b || b = 95 || b = 45 || b = 46 || b = 63 || b = 33 || 0x80 ≤ b

/-- The byte that a backslash and this byte stand for in a string. -/
def unescape (b : UInt8) : UInt8 :=
  if b = 110 then 10
  else if b = 114 then 13
  else if b = 116 then 9
  else if b = 48 then 0
  else b

/-- Every byte but a line feed becomes a space. -/
def blank (text : Bytes) : Bytes :=
  text.map fun b => if b = Ascii.newline then Ascii.newline else Ascii.space

/-- The length of the white space and the comments at the front of a text, given whether the front
lies in a comment. -/
def triviaLength (inComment : Bool) : Bytes → Nat
  | [] => 0
  | b :: rest =>
    if inComment then triviaLength (b ≠ Ascii.newline) rest + 1
    else if Ascii.isBlank b then triviaLength false rest + 1
    else if b = Ascii.semicolon then triviaLength true rest + 1
    else 0

/-- Reads a string from behind its opening quote. The result is its value and the number of bytes
through its closing quote; there is none when the string never closes. -/
def stringBody : Bytes → Option (Bytes × Nat)
  | [] => none
  | b :: rest =>
    if b = Ascii.quote then some ([], 1)
    else if b = Ascii.backslash then
      match rest with
      | [] => none
      | e :: rest => (stringBody rest).map fun (value, n) => (unescape e :: value, n + 2)
    else (stringBody rest).map fun (value, n) => (b :: value, n + 1)

/-- Reads the argument that begins with byte `b` at `offset`. The result is the argument and the
number of its bytes after the first. -/
def readArgument (offset : Nat) (b : UInt8) (rest : Bytes) : Except Defect (Argument × Nat) :=
  if b = Ascii.atSign then
    match rest.takeWhile isIdentifierByte with
    | [] => .error ⟨.malformed, offset⟩
    | name => .ok (.capture name (offset + 1), name.length)
  else if b = Ascii.quote then
    match stringBody rest with
    | none => .error ⟨.malformed, offset⟩
    | some (value, n) => .ok (.literal value offset, n)
  else if isIdentifierByte b then
    let word := rest.takeWhile isIdentifierByte
    .ok (.literal (b :: word) offset, word.length)
  else .error ⟨.malformed, offset⟩

/-- Reads the arguments of the form that opened at `start`, from `offset` on. The result is the
arguments and the number of bytes through the closing parenthesis. -/
def readArguments (start offset : Nat) (text : Bytes) : Except Defect (List Argument × Nat) :=
  let skipped := triviaLength false text
  match _h : text.drop skipped with
  | [] => .error ⟨.malformed, start⟩
  | b :: rest =>
    if b = Ascii.closeParen then .ok ([], skipped + 1)
    else
      match readArgument (offset + skipped) b rest with
      | .error d => .error d
      | .ok (argument, more) =>
        match readArguments start (offset + skipped + 1 + more) (rest.drop more) with
        | .error d => .error d
        | .ok (arguments, n) => .ok (argument :: arguments, skipped + 1 + more + n)
termination_by text.length
decreasing_by
  have := congrArg List.length _h
  simp only [List.length_drop, List.length_cons] at this ⊢
  omega

/-- A parenthesis before this text opens a predicate form: a hash sign follows the white space. -/
def opensForm (rest : Bytes) : Bool := (rest.dropWhile Ascii.isBlank).head? = some Ascii.hash

/-- Reads the form that opened at `offset`, from behind its parenthesis. The result is the form and
the number of its bytes after the parenthesis. -/
def readForm (offset : Nat) (rest : Bytes) : Except Defect (RawPredicate × Nat) :=
  let opening := triviaLength false rest + 1
  let operator := (rest.drop opening).takeWhile isIdentifierByte
  let opening := opening + operator.length
  match readArguments offset (offset + 1 + opening) (rest.drop opening) with
  | .error d => .error d
  | .ok (arguments, n) =>
    .ok (⟨offset, if operator = [] then none else some operator, arguments⟩, opening + n)

/-- A step of the pass over a query. -/
structure Lexeme where
  /-- The number of its bytes after the first. -/
  more : Nat
  /-- The form that it is. -/
  form : Option RawPredicate
  /-- The number of brackets open behind it. -/
  depth : Nat

/-- Reads the comment, string, form, bracket, capture name or other byte that begins with byte `b`
at `offset`, inside `depth` open brackets. -/
def readLexeme (depth offset : Nat) (b : UInt8) (rest : Bytes) : Except Defect Lexeme :=
  if b = Ascii.semicolon then
    .ok ⟨(rest.takeWhile (· ≠ Ascii.newline)).length, none, depth⟩
  else if b = Ascii.quote then
    match stringBody rest with
    | none => .error ⟨.malformed, offset⟩
    | some (_, n) => .ok ⟨n, none, depth⟩
  else if b = Ascii.openParen && opensForm rest then
    if depth = 0 then .error ⟨.impossibleStructure, offset⟩
    else
      match readForm offset rest with
      | .error d => .error d
      | .ok (form, n) => .ok ⟨n, some form, depth⟩
  else if b = Ascii.openParen || b = Ascii.openBracket then .ok ⟨0, none, depth + 1⟩
  else if b = Ascii.closeParen || b = Ascii.closeBracket then .ok ⟨0, none, depth - 1⟩
  else if b = Ascii.atSign then .ok ⟨(rest.takeWhile isIdentifierByte).length, none, depth⟩
  else .ok ⟨0, none, depth⟩

/-- Puts a lexeme and its text in front of what follows it. -/
def Extraction.prepend (e : Extraction) (text : Bytes) : Option RawPredicate → Extraction
  | none => ⟨text ++ e.structural, e.predicates⟩
  | some form => ⟨blank text ++ e.structural, form :: e.predicates⟩

/-- Takes the rest of a query apart, from `offset` on and inside `depth` open brackets. -/
def scan (depth offset : Nat) : Bytes → Except Defect Extraction
  | [] => .ok ⟨[], []⟩
  | b :: rest =>
    match readLexeme depth offset b rest with
    | .error d => .error d
    | .ok lexeme =>
      match scan lexeme.depth (offset + 1 + lexeme.more) (rest.drop lexeme.more) with
      | .error d => .error d
      | .ok e => .ok (e.prepend (b :: rest.take lexeme.more) lexeme.form)
termination_by text => text.length
decreasing_by
  simp only [List.length_drop, List.length_cons]
  omega

/-- The error that reports a defect of the query text. -/
def Defect.report (d : Defect) (source : Bytes) : QueryError :=
  .positioned source d.offset d.kind

/-- Takes a query apart into its structural text and its predicate forms. -/
def extract (source : Bytes) : Except QueryError Extraction :=
  (scan 0 0 source).mapError (·.report source)

end SyntaxForest.Query
