import SyntaxForest.Regex.Error
import SyntaxForest.Regex.Expr

/-!
# Flags of regular expressions

Flags say how a pattern is read from where they are set: whether case and line ends count, whether
characters or bytes are matched, and whether white space in the pattern stands for itself. What a
class of characters is depends on them.

## Main definitions

* `Flags`: case, lines, dots, encoding and white space
* `skipSpace`, `peekSpace`: what follows the white space that does not count
* `Flags.fold`, `Flags.classExpr`: a class as the flags ask for it
* `Flags.letterClass`, `asciiClass?`, `propertySet?`: classes by letter and by name
* `Flags.literalExpr`, `Flags.dotExpr`, `Flags.caret`, `Flags.dollar`: what single characters of a
  pattern stand for
-/

namespace SyntaxForest.Regex

open Unicode (ScalarSet)

/-- What the flags of a pattern say at a place. -/
structure Flags where
  /-- `i`: letters stand for both cases. -/
  ignoreCase : Bool := false
  /-- `m`: line assertions hold at every line. -/
  multiLine : Bool := false
  /-- `s`: the dot stands for line ends, too. -/
  dotMatchesLineEnd : Bool := false
  /-- `U`: repetitions are lazy by default. Both kinds match in the same places. -/
  swapGreed : Bool := false
  /-- `u`: classes hold characters of all scripts, rather than bytes. -/
  unicode : Bool := true
  /-- `R`: lines end with a line feed, a carriage return or both. -/
  crlf : Bool := false
  /-- `x`: white space and comments in the pattern do not count. -/
  ignoreSpace : Bool := false
  deriving Repr

/-- The flags with one of them set; none when no flag has this letter. -/
def Flags.set? (f : Flags) (letter : Char) (on : Bool) : Option Flags :=
  match letter with
  | 'i' => some { f with ignoreCase := on }
  | 'm' => some { f with multiLine := on }
  | 's' => some { f with dotMatchesLineEnd := on }
  | 'U' => some { f with swapGreed := on }
  | 'u' => some { f with unicode := on }
  | 'R' => some { f with crlf := on }
  | 'x' => some { f with ignoreSpace := on }
  | _ => none

/-- The largest member of a class under the flags. -/
def Flags.top (f : Flags) : Nat := if f.unicode then Unicode.lastScalar else 0xFF

/-! ### White space in patterns -/

/-- Skips white space, and comments to the end of their line. -/
def skipSpaceFrom (inComment : Bool) : List Char → List Char
  | [] => []
  | c :: rest =>
    if inComment then skipSpaceFrom (c ≠ '\n') rest
    else if Unicode.isWhiteSpace c then skipSpaceFrom false rest
    else if c = '#' then skipSpaceFrom true rest
    else c :: rest

/-- Skips white space and comments where the flags say that they do not count. -/
def skipSpace (f : Flags) (text : List Char) : List Char :=
  if f.ignoreSpace then skipSpaceFrom false text else text

/-- The next character that counts, for the reader of a dash in a class: behind white space and the
first hash sign. -/
def peekSpaceFrom (inComment : Bool) : List Char → Option Char
  | [] => none
  | c :: rest =>
    if Unicode.isWhiteSpace c then peekSpaceFrom inComment rest
    else if !inComment && c = '#' then peekSpaceFrom true rest
    else some c

/-- The next character that counts. -/
def peekSpace (f : Flags) (text : List Char) : Option Char :=
  if f.ignoreSpace then peekSpaceFrom false text else text.head?

/-! ### Classes -/

/-- The letters whose other case a set of bytes lacks. -/
def foldAscii (s : ScalarSet) : ScalarSet :=
  let upper := (s.inter (.range 97 122) 0xFF).ranges.map fun (a, b) => (a - 32, b - 32)
  let lower := (s.inter (.range 65 90) 0xFF).ranges.map fun (a, b) => (a + 32, b + 32)
  s.union (.ofRanges (upper ++ lower))

/-- A class with both cases of its letters where the flags ask for it. -/
def Flags.fold (f : Flags) (s : ScalarSet) : ScalarSet :=
  if f.ignoreCase then (if f.unicode then s.foldCase else foldAscii s) else s

/-- A class with both cases where the flags ask for it, or all but it. -/
def Flags.foldAndNegate (f : Flags) (negated : Bool) (s : ScalarSet) : ScalarSet :=
  if negated then (f.fold s).complement f.top else f.fold s

/-- A class as an expression. -/
def Flags.classExpr (f : Flags) (s : ScalarSet) : Expr := if f.unicode then .scalar s else .byte s

/-- The class of an ASCII name such as `alpha`. -/
def asciiClass? (name : List Char) : Option ScalarSet :=
  let of := fun ranges => some (ScalarSet.ofRanges ranges)
  match String.ofList name with
  | "alnum" => of [(48, 57), (65, 90), (97, 122)]
  | "alpha" => of [(65, 90), (97, 122)]
  | "ascii" => of [(0, 127)]
  | "blank" => of [(9, 9), (32, 32)]
  | "cntrl" => of [(0, 31), (127, 127)]
  | "digit" => of [(48, 57)]
  | "graph" => of [(33, 126)]
  | "lower" => of [(97, 122)]
  | "print" => of [(32, 126)]
  | "punct" => of [(33, 47), (58, 64), (91, 96), (123, 126)]
  | "space" => of [(9, 13), (32, 32)]
  | "upper" => of [(65, 90)]
  | "word" => of [(48, 57), (65, 90), (95, 95), (97, 122)]
  | "xdigit" => of [(48, 57), (65, 70), (97, 102)]
  | _ => none

/-- The class of an escape letter: digits, white space or words, of all scripts or of ASCII. -/
def Flags.letterClass (f : Flags) (letter : Char) : ScalarSet :=
  let s : ScalarSet :=
    if letter.toLower = 'd' then
      if f.unicode then Unicode.digitSet else .range 48 57
    else if letter.toLower = 's' then
      if f.unicode then Unicode.whiteSpaceSet else .ofRanges [(9, 13), (32, 32)]
    else if f.unicode then Unicode.wordSet
    else .ofRanges [(48, 57), (65, 90), (95, 95), (97, 122)]
  if letter.isUpper then s.complement f.top else s

/-- Splits a text at the first occurrence of a character. -/
def splitFirst? (c : Char) (text : List Char) : Option (List Char × List Char) :=
  match text.dropWhile (· ≠ c) with
  | [] => none
  | _ :: after => some (text.takeWhile (· ≠ c), after)

/-- The class that the text between the braces of a property escape names, and whether it is
negated there. -/
def propertySet? (text : List Char) : Option (Bool × ScalarSet) :=
  let valued := fun negated (name value : List Char) =>
    (Unicode.valuedSet? (Unicode.looseName name) (Unicode.looseName value)).map (negated, ·)
  match splitFirst? '=' text with
  | some (name, value) =>
    match name.reverse with
    | '!' :: front => valued true front.reverse value
    | _ =>
      match splitFirst? ':' text with
      | some (name, value) => valued false name value
      | none => valued false name value
  | none =>
    match splitFirst? ':' text with
    | some (name, value) => valued false name value
    | none => (Unicode.namedSet? (Unicode.looseName text)).map (false, ·)

/-! ### Literals, dots and line assertions -/

/-- The expression of a character. Where bytes are read, a character written as a byte stands for
that byte, and the case of letters that are not ASCII does not fold. -/
def Flags.literalExpr (f : Flags) (c : Char) (isByte : Bool) : Expr :=
  let n := c.toNat
  if f.unicode then .scalar (f.fold (.range n n))
  else if isByte && 0x80 ≤ n then .byte (.range n n)
  else if n < 0x80 then .byte (f.fold (.range n n))
  else .scalar (.range n n)

/-- The expression of a dot. -/
def Flags.dotExpr (f : Flags) : Expr :=
  let ends : ScalarSet :=
    if f.dotMatchesLineEnd then .empty
    else if f.crlf then .ofRanges [(10, 10), (13, 13)]
    else .range 10 10
  f.classExpr (ends.complement f.top)

/-- The assertion of a caret. -/
def Flags.caret (f : Flags) : Look :=
  if f.multiLine then (if f.crlf then .crlfStart else .lineStart) else .textStart

/-- The assertion of a dollar sign. -/
def Flags.dollar (f : Flags) : Look :=
  if f.multiLine then (if f.crlf then .crlfEnd else .lineEnd) else .textEnd

end SyntaxForest.Regex
