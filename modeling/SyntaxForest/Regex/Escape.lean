import SyntaxForest.Regex.Flags
import SyntaxForest.Text.Reading

/-!
# Escapes of regular expressions

What a backslash and the text behind it stand for: a character, written as itself or by its number,
an assertion, or a class. Readers begin behind the backslash and return what they leave.

## Main definitions

* `Primitive`: what an escape stands for
* `readHex`, `readProperty`, `readBoundary`: numbers, properties and word boundaries
* `readEscape`: any escape
-/

namespace SyntaxForest.Regex

open Unicode (ScalarSet)

/-- What an escape, or a character without one, stands for. -/
inductive Primitive where
  /-- A character; `isByte` when it was written as two hexadecimal digits. -/
  | literal (c : Char) (isByte : Bool)
  /-- An assertion. -/
  | look (assertion : Look)
  /-- A class. -/
  | charClass (s : ScalarSet)

/-- The value of hexadecimal digits as a character. -/
def hexScalar (digits : List Char) : Except Error Char :=
  let n := Numeral.value 16 digits
  if n.isValidChar then .ok (Char.ofNat n) else .error .escapeScalar

/-- Reads a fixed number of hexadecimal digits. -/
def hexDigits (f : Flags) : Nat → List Char → Except Error (List Char × List Char)
  | 0, text => .ok ([], text)
  | _ + 1, [] => .error .escape
  | n + 1, c :: rest =>
    if Numeral.isHexDigit c then
      match hexDigits f n (skipSpace f rest) with
      | .error e => .error e
      | .ok (digits, later) => .ok (c :: digits, later)
    else .error .escape

/-- Reads hexadecimal digits to the closing brace. -/
def hexBraced (f : Flags) (text : List Char) : Except Error (List Char × List Char) :=
  match text with
  | [] => .error .escape
  | '\x7d' :: rest => .ok ([], skipSpace f rest)
  | c :: rest =>
    if Numeral.isHexDigit c then
      match hexBraced f (resume rest (skipSpace f rest)) with
      | .error e => .error e
      | .ok (digits, later) => .ok (c :: digits, later)
    else .error .escape
termination_by text.length
decreasing_by
  have := length_resume_le rest (skipSpace f rest)
  simp only [List.length_cons]
  omega

/-- Reads a hexadecimal escape from behind its letter. -/
def readHex (f : Flags) (letter : Char) (text : List Char) : Except Error (Primitive × List Char) :=
  match skipSpace f text with
  | [] => .error .escape
  | '\x7b' :: rest =>
    match hexBraced f (skipSpace f rest) with
    | .error e => .error e
    | .ok ([], _) => .error .escape
    | .ok (digits, later) => (hexScalar digits).map fun c => (.literal c false, later)
  | c :: rest =>
    let count := if letter = 'x' then 2 else if letter = 'u' then 4 else 8
    match hexDigits f count (c :: rest) with
    | .error e => .error e
    | .ok (digits, later) => (hexScalar digits).map fun c => (.literal c (letter = 'x'), later)

/-- The text to the closing brace without the white space that does not count, and what follows the
brace; none when there is no brace. -/
def bracedText (f : Flags) (text : List Char) : Option (List Char × List Char) :=
  match text with
  | [] => none
  | '\x7d' :: rest => some ([], rest)
  | c :: rest =>
    (bracedText f (resume rest (skipSpace f rest))).map fun (inside, later) => (c :: inside, later)
termination_by text.length
decreasing_by
  have := length_resume_le rest (skipSpace f rest)
  simp only [List.length_cons]
  omega

/-- Reads a property escape from behind its letter. -/
def readProperty (f : Flags) (negated : Bool) (text : List Char) :
    Except Error (Primitive × List Char) :=
  let answer := fun (inside later : List Char) =>
    if f.unicode then
      match propertySet? inside with
      | none => .error .unknownProperty
      | some (n, s) => .ok (.charClass (f.foldAndNegate (negated != n) s), later)
    else .error .scalarsNotAllowed
  match skipSpace f text with
  | [] => .error .escape
  | '\x7b' :: rest =>
    match bracedText f (skipSpace f rest) with
    | none => .error .escape
    | some (inside, later) => answer inside later
  | '\\' :: _ => .error .escape
  | c :: rest => answer [c] (skipSpace f rest)

/-- The characters with a meaning of their own in patterns. -/
def isMeta (c : Char) : Bool :=
  ['\\', '.', '+', '*', '?', '(', ')', '|', '[', ']', '\x7b', '\x7d', '^', '$', '#', '&', '-',
    '~'].contains c

/-- The letters of a word boundary's name. -/
def isBoundaryLetter (c : Char) : Bool := c.isAlpha || c = '-'

/-- The assertion with this name between braces. -/
def boundaryNamed? (ascii : Bool) (name : List Char) : Option Look :=
  match String.ofList name with
  | "start" => some (.wordStart ascii)
  | "end" => some (.wordEnd ascii)
  | "start-half" => some (.wordStartHalf ascii)
  | "end-half" => some (.wordEndHalf ascii)
  | _ => none

/-- The letters of a boundary's name, with the white space between them that does not count. -/
def boundaryLetters (f : Flags) (text : List Char) : List Char × List Char :=
  match text with
  | [] => ([], [])
  | c :: rest =>
    if isBoundaryLetter c then
      let (name, later) := boundaryLetters f (resume rest (skipSpace f rest))
      (c :: name, later)
    else ([], c :: rest)
termination_by text.length
decreasing_by
  have := length_resume_le rest (skipSpace f rest)
  simp only [List.length_cons]
  omega

/-- Reads a word boundary from behind its letter. A brace after it opens the boundary's name, but a
repetition when no letter follows. -/
def readBoundary (f : Flags) (text : List Char) : Except Error (Primitive × List Char) :=
  let plain := .ok (.look (.wordBoundary !f.unicode), text)
  match text with
  | '\x7b' :: rest =>
    match skipSpace f rest with
    | [] => .error .boundaryName
    | c :: later =>
      if isBoundaryLetter c then
        match boundaryLetters f (c :: later) with
        | (name, '\x7d' :: later) =>
          match boundaryNamed? (!f.unicode) name with
          | some l => .ok (.look l, later)
          | none => .error .boundaryName
        | _ => .error .boundaryName
      else plain
  | _ => plain

/-- Reads an escape from behind its backslash. -/
def readEscape (f : Flags) (text : List Char) : Except Error (Primitive × List Char) :=
  match text with
  | [] => .error .escape
  | c :: rest =>
    if c.isDigit then .error .backreference
    else if c = 'x' || c = 'u' || c = 'U' then readHex f c rest
    else if c = 'p' || c = 'P' then readProperty f (c = 'P') rest
    else if ['d', 's', 'w', 'D', 'S', 'W'].contains c then
      .ok (.charClass (f.letterClass c), skipSpace f rest)
    else if isMeta c then .ok (.literal c false, rest)
    else
      match c with
      | 'a' => .ok (.literal '\x07' false, rest)
      | 'f' => .ok (.literal '\x0c' false, rest)
      | 't' => .ok (.literal '\t' false, rest)
      | 'n' => .ok (.literal '\n' false, rest)
      | 'r' => .ok (.literal '\r' false, rest)
      | 'v' => .ok (.literal '\x0b' false, rest)
      | 'A' => .ok (.look .textStart, rest)
      | 'z' => .ok (.look .textEnd, rest)
      | 'b' => readBoundary f rest
      | 'B' => .ok (.look (.notWordBoundary !f.unicode), rest)
      | '<' => .ok (.look (.wordStart !f.unicode), rest)
      | '>' => .ok (.look (.wordEnd !f.unicode), rest)
      | _ =>
        if c.toNat < 0x80 && !c.isAlpha then .ok (.literal c false, rest) else .error .escape

end SyntaxForest.Regex
