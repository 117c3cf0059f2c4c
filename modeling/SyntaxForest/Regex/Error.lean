/-!
# Errors of regular expressions

Why a pattern is refused by the standard dialect. The wording of each reason is this dialect's own:
other dialects refuse patterns in words of theirs.
-/

namespace SyntaxForest.Regex

/-- Why a pattern is refused. -/
inductive Error where
  /-- A bracketed class never closes. -/
  | classUnclosed
  /-- A range of a class ends before it starts. -/
  | classRangeInvalid
  /-- A range of a class ends in something that is no character. -/
  | classRangeNotLiteral
  /-- A class holds an escape that stands for no characters. -/
  | classEscapeInvalid
  /-- A group never closes. -/
  | groupUnclosed
  /-- A group closes that never opened. -/
  | groupUnopened
  /-- A group's name is empty, misspelt, unfinished or taken. -/
  | groupName
  /-- Flags are misspelt, repeated or unfinished. -/
  | flags
  /-- A repetition has nothing to repeat. -/
  | repetitionMissing
  /-- A repetition's bounds are misspelt, unfinished or in the wrong order. -/
  | repetitionCount
  /-- An escape is unfinished or unknown. -/
  | escape
  /-- An escape names no character. -/
  | escapeScalar
  /-- A word boundary has an unknown name. -/
  | boundaryName
  /-- A back reference. -/
  | backreference
  /-- An assertion about the text before or behind. -/
  | lookAround
  /-- No property has this name or value. -/
  | unknownProperty
  /-- Characters that are not ASCII where bytes are read. -/
  | scalarsNotAllowed
  /-- Groups, classes and repetitions are nested too deeply. -/
  | nestedTooDeeply
  /-- The automaton would take too much room. -/
  | tooLarge
  deriving DecidableEq, Repr

/-- The wording of a refusal by the standard dialect. -/
def Error.message : Error → String
  | .classUnclosed => "unclosed character class"
  | .classRangeInvalid => "invalid character class range, the start must be at most the end"
  | .classRangeNotLiteral => "invalid range boundary, must be a literal"
  | .classEscapeInvalid => "invalid escape sequence found in character class"
  | .groupUnclosed => "unclosed group"
  | .groupUnopened => "unopened group"
  | .groupName => "invalid capture group name"
  | .flags => "invalid flags"
  | .repetitionMissing => "repetition operator missing expression"
  | .repetitionCount => "invalid repetition count range"
  | .escape => "invalid escape sequence"
  | .escapeScalar => "escape is not a Unicode scalar value"
  | .boundaryName => "invalid word boundary name"
  | .backreference => "back references are not supported"
  | .lookAround => "assertions about the text before or behind are not supported"
  | .unknownProperty => "Unicode property not found"
  | .scalarsNotAllowed => "Unicode not allowed here"
  | .nestedTooDeeply => "exceeds the nesting limit"
  | .tooLarge => "exceeds the size limit"

end SyntaxForest.Regex
