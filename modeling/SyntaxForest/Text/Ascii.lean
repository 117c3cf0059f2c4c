import SyntaxForest.Text.Utf8

/-!
# ASCII bytes

The bytes with a meaning of their own in query text, and the classes of bytes that its readers
tell apart.
-/

namespace SyntaxForest.Ascii

/-- A line feed, which ends a line. -/
def newline : UInt8 := 10

/-- A space. -/
def space : UInt8 := 32

/-- A double quote. -/
def quote : UInt8 := 34

/-- A backslash. -/
def backslash : UInt8 := 92

/-- A hash sign. -/
def hash : UInt8 := 35

/-- An opening parenthesis. -/
def openParen : UInt8 := 40

/-- A closing parenthesis. -/
def closeParen : UInt8 := 41

/-- An opening square bracket. -/
def openBracket : UInt8 := 91

/-- A closing square bracket. -/
def closeBracket : UInt8 := 93

/-- A semicolon, which opens a comment. -/
def semicolon : UInt8 := 59

/-- An at sign, which opens a capture name. -/
def atSign : UInt8 := 64

/-- White space: space, tab, line feed, form feed and carriage return. -/
def isBlank (b : UInt8) : Bool := b = 32 || b = 9 || b = 10 || b = 12 || b = 13

/-- An ASCII letter. -/
def isLetter (b : UInt8) : Bool := (65 ≤ b && b ≤ 90) || (97 ≤ b && b ≤ 122)

/-- An ASCII digit. -/
def isDigit (b : UInt8) : Bool := 48 ≤ b && b ≤ 57

end SyntaxForest.Ascii
