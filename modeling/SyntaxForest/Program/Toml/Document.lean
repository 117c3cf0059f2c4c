import SyntaxForest.Program.Toml.Scalar
import SyntaxForest.Program.Toml.Table

/-!
# Reading TOML documents

A document is a sequence of statements, each on a line of its own: headers, which say to which table
the keys after them belong, and keys with values. Arrays and inline tables may reach over several
lines, with comments between their members and a comma behind the last one.

## Main definitions

* `skipTrivia`: white space, line ends and comments
* `readItems`, `readFields`, `readValue`: values
* `readHeader`, `readField`: statements
* `parse`: a whole document
-/

namespace SyntaxForest.Toml

/-- Skips white space, line ends and comments, given whether the text begins in a comment. -/
def skipTrivia (inComment : Bool) : List Char → Except Error (List Char)
  | [] => .ok []
  | c :: rest =>
    if c = '\n' then skipTrivia false rest
    else if c = '\r' then
      if rest.head? = some '\n' then skipTrivia false rest else .error .forbiddenCharacter
    else if inComment then
      if isControl c then .error .forbiddenCharacter else skipTrivia true rest
    else if isBlank c then skipTrivia false rest
    else if c = '#' then skipTrivia true rest
    else .ok (c :: rest)

/-- Reads a value from the front of a text. -/
abbrev ValueReader := List Char → Except Error (Value × List Char)

/-- What follows a mark at the front of a text. -/
def expect (mark : Char) : List Char → Except Error (List Char)
  | [] => .error (.expected (String.singleton mark))
  | c :: rest => if c = mark then .ok rest else .error (.expected (String.singleton mark))

/-- A key with its value: the dotted keys before it, the key and the value, and what
follows them. -/
def readField (readValue : ValueReader) (text : List Char) :
    Except Error ((List String × String × Value) × List Char) := do
  let (path, key, rest) ← readPath text
  let rest ← expect '=' rest
  let (value, rest) ← readValue (skipBlanks rest)
  return ((path, key, value), rest)

/-- What follows a member of an array or of an inline table: the rest behind a comma, or the end
behind the closing mark. -/
def readSeparator (closing : Char) (text : List Char) : Except Error (Bool × List Char) := do
  match ← skipTrivia false text with
  | ',' :: rest => return (true, rest)
  | rest => return (false, ← expect closing rest)

/-- The members of an array, from behind its bracket or a comma, and what follows the array. -/
def readItems (readValue : ValueReader) (text : List Char) :
    Except Error (List Value × List Char) :=
  match skipTrivia false text with
  | .error e => .error e
  | .ok (']' :: rest) => .ok ([], rest)
  | .ok start =>
    match readValue start with
    | .error e => .error e
    | .ok (value, rest) =>
      match readSeparator ']' rest with
      | .error e => .error e
      | .ok (false, rest) => .ok ([value], rest)
      | .ok (true, rest) =>
        if rest.length < text.length then
          match readItems readValue rest with
          | .error e => .error e
          | .ok (values, rest) => .ok (value :: values, rest)
        else .error .invalidValue
termination_by text.length

/-- The table that an inline table stands for, when the fields so far have defined `entries`, from
behind its brace or a comma; and what follows it. -/
def readFields (readValue : ValueReader) (entries : Entries) (text : List Char) :
    Except Error (Entries × List Char) :=
  match skipTrivia false text with
  | .error e => .error e
  | .ok ('\x7d' :: rest) => .ok (entries, rest)
  | .ok start =>
    match readField readValue start with
    | .error e => .error e
    | .ok ((path, key, value), rest) =>
      match entries.define path key value, readSeparator '\x7d' rest with
      | .error e, _ => .error e
      | _, .error e => .error e
      | .ok entries, .ok (false, rest) => .ok (entries, rest)
      | .ok entries, .ok (true, rest) =>
        if rest.length < text.length then readFields readValue entries rest
        else .error .invalidValue
termination_by text.length

/-- The greatest depth of arrays and inline tables. -/
def depthLimit : Nat := 80

/-- A value at the front of a text, in which arrays and inline tables are nested no deeper than
`depth`, and what follows it. -/
def readValue (depth : Nat) : ValueReader
  | '"' :: rest => (readString '"' rest).map fun (s, rest) => (.text (String.ofList s), rest)
  | '\'' :: rest => (readString '\'' rest).map fun (s, rest) => (.text (String.ofList s), rest)
  | '[' :: rest =>
    match depth with
    | 0 => .error .nestedTooDeeply
    | depth + 1 =>
      (readItems (readValue depth) rest).map fun (values, rest) => (.array values, rest)
  | '\x7b' :: rest =>
    match depth with
    | 0 => .error .nestedTooDeeply
    | depth + 1 =>
      (readFields (readValue depth) [] rest).map fun (entries, rest) => (entries.toValue, rest)
  | text =>
    match scalarText text with
    | [] => .error .invalidValue
    | word => (readScalar word).map (·, text.drop word.length)

/-- What a statement does: the table that the keys after it belong to, and the tables of the
document so far. -/
structure Progress where
  /-- The path of the table. -/
  header : List String
  /-- The tables. -/
  entries : Entries

/-- Reads a header from behind its bracket. -/
def readHeader (p : Progress) (text : List Char) : Except Error (Progress × List Char) := do
  let isElement := text.head? = some '['
  let (path, key, rest) ← readPath (skipBlanks (if isElement then text.drop 1 else text))
  let rest ← expect ']' rest
  let rest ← if isElement then expect ']' rest else pure rest
  let change := if isElement then Entries.openElement key else Entries.openTable key
  return (⟨path ++ [key], ← Entries.within change path p.entries⟩, rest)

/-- Reads a statement. -/
def readStatement (p : Progress) : List Char → Except Error (Progress × List Char)
  | '[' :: rest => readHeader p rest
  | text => do
    let ((path, key, value), rest) ← readField (readValue depthLimit) text
    let entries ← Entries.within (Entries.define path key value) p.header p.entries
    return ({ p with entries }, rest)

/-- Whether a line may end here: at a line end, a comment or the end of the text. -/
def atLineEnd : List Char → Bool
  | [] => true
  | c :: _ => c = '\n' || c = '\r' || c = '#'

/-- Reads the statements of a text. -/
def readStatements (p : Progress) (text : List Char) : Except Error Progress :=
  match skipTrivia false text with
  | .error e => .error e
  | .ok [] => .ok p
  | .ok start =>
    match readStatement p start with
    | .error e => .error e
    | .ok (p, rest) =>
      if atLineEnd (skipBlanks rest) ∧ (skipBlanks rest).length < text.length then
        readStatements p (skipBlanks rest)
      else .error (.expected "newline")
termination_by text.length

/-- Skips a byte order mark. -/
def skipMark : List Char → List Char
  | '\uFEFF' :: rest => rest
  | text => text

/-- The table that a document stands for. -/
def parse (text : List Char) : Except Error Value :=
  (readStatements ⟨[], []⟩ (skipMark text)).map (·.entries.toValue)

end SyntaxForest.Toml
