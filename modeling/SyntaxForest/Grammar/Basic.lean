import SyntaxForest.Unicode.Properties

/-!
# Grammars

A grammar is a language of the parsing engine under a name, with the file extensions that it claims.

## Main definitions

* `Language`, `Grammar`: the engine's language and its registered form
* `Grammar.describe`: a grammar in the notation of a record
-/

namespace SyntaxForest

/-- A language that the engine can parse, by the engine's own name for it. -/
structure Language where
  /-- The engine's name. -/
  name : String
  deriving DecidableEq, Repr, Inhabited

/-- A language under a name, with the file extensions that it claims. -/
structure Grammar where
  /-- The name that it is found by. -/
  name : String
  /-- The language. -/
  language : Language
  /-- The extensions, as they were declared. -/
  extensions : List String
  deriving DecidableEq, Repr, Inhabited

/-- A character in a quoted text. Quotes, backslashes and what cannot be shown are escaped. -/
def quotedChar (c : Char) : String :=
  match c with
  | '\x00' => "\\0"
  | '\t' => "\\t"
  | '\r' => "\\r"
  | '\n' => "\\n"
  | '"' => "\\\""
  | '\\' => "\\\\"
  | c =>
    if Unicode.isPrintable c && !Unicode.isGraphemeExtend c then String.singleton c
    else "\\u\x7b" ++ String.ofList (Nat.toDigits 16 c.toNat) ++ "\x7d"

/-- A text between quotes. -/
def quotedText (text : String) : String :=
  "\"" ++ String.join (text.toList.map quotedChar) ++ "\""

namespace Grammar

/-- Grammars are one when they have one name. -/
def sameName (g h : Grammar) : Bool := g.name == h.name

/-- The grammar in the notation of a record. -/
def describe (g : Grammar) : String :=
  "Grammar \x7b name: " ++ quotedText g.name ++ ", extensions: [" ++
    ", ".intercalate (g.extensions.map quotedText) ++ "] \x7d"

end Grammar

end SyntaxForest
