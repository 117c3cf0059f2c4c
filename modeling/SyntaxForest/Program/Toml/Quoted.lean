import SyntaxForest.Text.Reading
import SyntaxForest.Program.Toml.Value

/-!
# Strings and keys of TOML

Basic strings know escapes, literal strings do not. Three quotes open a string of several lines: a
line end right behind them does not count, and up to two quotes may stand before the closing ones. A
key is a bare word or a string of one line; dots join keys to a path.

## Main definitions

* `readEscape`: the character of an escape
* `readBasic`, `readLiteral`, `readBasicLines`, `readLiteralLines`: strings from behind their quotes
* `readString`, `readKey`, `readPath`: any string, a key and a path of keys
-/

namespace SyntaxForest.Toml

/-- A space or a tab. -/
def isBlank (c : Char) : Bool := c = ' ' || c = '\t'

/-- Skips spaces and tabs. -/
def skipBlanks (text : List Char) : List Char := text.dropWhile isBlank

/-- A control character, tabs apart. -/
def isControl (c : Char) : Bool := (c < ' ' && c ≠ '\t') || c = '\x7F'

/-- A character of a bare word. -/
def isBareKey (c : Char) : Bool := c.isAlphanum || c = '_' || c = '-'

/-- The character that this many hexadecimal digits name, and what follows them. -/
def readCodePoint (count : Nat) (text : List Char) : Except Error (Char × List Char) :=
  let digits := text.take count
  let n := Numeral.value 16 digits
  if digits.length = count ∧ digits.all Numeral.isHexDigit ∧ n.isValidChar then
    .ok (Char.ofNat n, text.drop count)
  else .error .invalidEscape

/-- The character of an escape, from behind its backslash, and what follows it. -/
def readEscape : List Char → Except Error (Char × List Char)
  | [] => .error .unclosedString
  | c :: rest =>
    match c with
    | 'b' => .ok ('\x08', rest)
    | 't' => .ok ('\t', rest)
    | 'n' => .ok ('\n', rest)
    | 'f' => .ok ('\x0C', rest)
    | 'r' => .ok ('\r', rest)
    | 'e' => .ok ('\x1B', rest)
    | '"' => .ok ('"', rest)
    | '\\' => .ok ('\\', rest)
    | 'x' => readCodePoint 2 rest
    | 'u' => readCodePoint 4 rest
    | 'U' => readCodePoint 8 rest
    | _ => .error .invalidEscape

/-- Puts a character before a text that was read. -/
def consRead (c : Char) :
    Except Error (List Char × List Char) → Except Error (List Char × List Char)
  | .error e => .error e
  | .ok (value, rest) => .ok (c :: value, rest)

/-- A string of one line with escapes, from behind its quote, and what follows it. -/
def readBasic : List Char → Except Error (List Char × List Char)
  | [] => .error .unclosedString
  | c :: rest =>
    if c = '"' then .ok ([], rest)
    else if c = '\\' then
      match readEscape rest with
      | .error e => .error e
      | .ok (e, later) => consRead e (readBasic (resume rest later))
    else if c = '\n' then .error .unclosedString
    else if isControl c then .error .forbiddenCharacter
    else consRead c (readBasic rest)
termination_by text => text.length
decreasing_by
  all_goals
    have := length_resume_le rest
    simp only [List.length_cons]
    grind

/-- A string of one line without escapes, from behind its quote, and what follows it. -/
def readLiteral : List Char → Except Error (List Char × List Char)
  | [] => .error .unclosedString
  | c :: rest =>
    if c = '\'' then .ok ([], rest)
    else if c = '\n' then .error .unclosedString
    else if isControl c then .error .forbiddenCharacter
    else consRead c (readLiteral rest)

/-- Skips one line end. -/
def skipLineEnd : List Char → List Char
  | '\n' :: rest => rest
  | '\r' :: '\n' :: rest => rest
  | text => text

/-- The quotes at the front of a text that close a string of several lines: of up to five quotes,
the ones before the last three belong to the string. None when the string goes on. -/
def closing? (quote : Char) (text : List Char) : Option (List Char × List Char) :=
  let quotes := (text.take 5).takeWhile (· = quote)
  if 3 ≤ quotes.length then some (quotes.drop 3, text.drop quotes.length) else none

/-- Skips white space with line ends. -/
def skipSpace : List Char → List Char
  | '\r' :: '\n' :: rest => skipSpace rest
  | c :: rest => if isBlank c || c = '\n' then skipSpace rest else c :: rest
  | [] => []

/-- What follows an escaped line end and the white space behind it, from behind the backslash. -/
def skipEscapedLineEnd? (text : List Char) : Option (List Char) :=
  match skipBlanks text with
  | '\n' :: rest => some (skipSpace rest)
  | '\r' :: '\n' :: rest => some (skipSpace rest)
  | _ => none

/-- A string of several lines with escapes, from behind its quotes, and what follows it. -/
def readBasicLines (text : List Char) : Except Error (List Char × List Char) :=
  match closing? '"' text with
  | some closed => .ok closed
  | none =>
    match text with
    | [] => .error .unclosedString
    | c :: rest =>
      if c = '\\' then
        match skipEscapedLineEnd? rest with
        | some later => readBasicLines (resume rest later)
        | none =>
          match readEscape rest with
          | .error e => .error e
          | .ok (e, later) => consRead e (readBasicLines (resume rest later))
      else if c = '\r' && rest.head? ≠ some '\n' then .error .forbiddenCharacter
      else if isControl c && c ≠ '\n' && c ≠ '\r' then .error .forbiddenCharacter
      else consRead c (readBasicLines rest)
termination_by text.length
decreasing_by
  all_goals
    have := length_resume_le rest
    simp only [List.length_cons]
    grind

/-- A string of several lines without escapes, from behind its quotes, and what follows it. -/
def readLiteralLines (text : List Char) : Except Error (List Char × List Char) :=
  match closing? '\'' text with
  | some closed => .ok closed
  | none =>
    match text with
    | [] => .error .unclosedString
    | c :: rest =>
      if c = '\r' && rest.head? ≠ some '\n' then .error .forbiddenCharacter
      else if isControl c && c ≠ '\n' && c ≠ '\r' then .error .forbiddenCharacter
      else consRead c (readLiteralLines rest)

/-- A string that begins with this quote, from behind it, and what follows it. -/
def readString (quote : Char) (rest : List Char) : Except Error (List Char × List Char) :=
  if rest.take 2 = [quote, quote] then
    let body := skipLineEnd (rest.drop 2)
    if quote = '"' then readBasicLines body else readLiteralLines body
  else if quote = '"' then readBasic rest
  else readLiteral rest

/-- A key at the front of a text, and what follows it. -/
def readKey (text : List Char) : Except Error (String × List Char) :=
  match text with
  | '"' :: rest => (readBasic rest).map fun (key, rest) => (String.ofList key, rest)
  | '\'' :: rest => (readLiteral rest).map fun (key, rest) => (String.ofList key, rest)
  | _ =>
    match text.takeWhile isBareKey with
    | [] => .error .invalidKey
    | key => .ok (String.ofList key, text.dropWhile isBareKey)

theorem length_skipBlanks_le (text : List Char) : (skipBlanks text).length ≤ text.length :=
  (List.dropWhile_suffix _).length_le

/-- A path of keys joined by dots: the keys before the last, the last, and what follows it. -/
def readPath (text : List Char) : Except Error (List String × String × List Char) :=
  match readKey text with
  | .error e => .error e
  | .ok (key, later) =>
    match _h : skipBlanks (resume text later) with
    | '.' :: more =>
      match readPath (skipBlanks more) with
      | .error e => .error e
      | .ok (path, last, rest) => .ok (key :: path, last, rest)
    | rest => .ok ([], key, rest)
termination_by text.length
decreasing_by
  have resumed := length_resume_le text later
  have skipped := length_skipBlanks_le (resume text later)
  have left := length_skipBlanks_le more
  simp only [_h, List.length_cons] at skipped
  omega

end SyntaxForest.Toml
