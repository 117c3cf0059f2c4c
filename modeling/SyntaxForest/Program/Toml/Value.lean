/-!
# TOML values

The values that a TOML document holds, and why a text is no such document.
-/

namespace SyntaxForest.Toml

/-- A value of a document. -/
inductive Value where
  /-- Text. -/
  | text (value : String)
  /-- An integer of 64 bits. -/
  | integer (value : Int)
  /-- A number with a fraction or an exponent, or no number at all, as it is written without
  underscores. -/
  | float (written : String)
  /-- A truth value. -/
  | boolean (value : Bool)
  /-- A date, a time or both, in its standard form. -/
  | datetime (written : String)
  /-- Values in order. -/
  | array (items : List Value)
  /-- Values under keys. -/
  | table (entries : List (String × Value))
  deriving Inhabited

/-- Why a text is no document. -/
inductive Error where
  /-- A string is not closed on its line, or not at all. -/
  | unclosedString
  /-- A character may not stand where it does. -/
  | forbiddenCharacter
  /-- An escape is unknown or names no character. -/
  | invalidEscape
  /-- A key is due. -/
  | invalidKey
  /-- A value is due. -/
  | invalidValue
  /-- A number does not fit. -/
  | numberOutOfRange
  /-- A mark is due, such as an equals sign or a closing bracket. -/
  | expected (mark : String)
  /-- A key is defined twice, or a table is defined in two ways. -/
  | duplicateKey (key : String)
  /-- Arrays and inline tables are nested too deeply. -/
  | nestedTooDeeply
  deriving DecidableEq, Repr

/-- The wording of an error. -/
def Error.message : Error → String
  | .unclosedString => "unclosed string"
  | .forbiddenCharacter => "invalid character"
  | .invalidEscape => "invalid escape sequence"
  | .invalidKey => "invalid key"
  | .invalidValue => "invalid value"
  | .numberOutOfRange => "number out of range"
  | .expected mark => s!"expected {mark}"
  | .duplicateKey key => s!"duplicate key '{key}'"
  | .nestedTooDeeply => "cannot recurse further"

end SyntaxForest.Toml
