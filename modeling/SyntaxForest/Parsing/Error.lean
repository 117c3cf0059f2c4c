/-!
# Parse errors

Why a parse gave no tree, or why there is no parser for it. Halted parses leave the parser fit for
another attempt; the other errors are defects of its setup.

## Main definitions

* `Duration`: a stretch of time
* `ParseError`: the errors, with their wording
-/

namespace SyntaxForest

/-- A stretch of time. -/
structure Duration where
  /-- Its length. -/
  nanoseconds : Nat
  deriving DecidableEq, Repr, Inhabited

namespace Duration

/-- No time at all. -/
def zero : Duration := ⟨0⟩

/-- So many milliseconds. -/
def ofMillis (n : Nat) : Duration := ⟨n * 1000000⟩

/-- The milliseconds that are full. -/
def toMillis (d : Duration) : Nat := d.nanoseconds / 1000000

@[simp] theorem toMillis_ofMillis (n : Nat) : (ofMillis n).toMillis = n := by
  simp [ofMillis, toMillis]

/-- The order by length. -/
instance : LE Duration := ⟨fun a b => a.nanoseconds ≤ b.nanoseconds⟩

instance (a b : Duration) : Decidable (a ≤ b) :=
  inferInstanceAs (Decidable (a.nanoseconds ≤ b.nanoseconds))

end Duration

/-- Why a parse gave no tree. -/
inductive ParseError where
  /-- The caller's flag stopped it. -/
  | cancelled
  /-- It took more time than it may. -/
  | operationLimitExceeded (limit : Duration)
  /-- The parser has no grammar. -/
  | noGrammar
  /-- The range of this index is out of order, counted from zero. -/
  | invalidRanges (index : Nat)
  /-- The engine does not load the grammar of this name, for the reason it gives. -/
  | incompatibleGrammar (grammar message : String)
  deriving DecidableEq, Repr

namespace ParseError

/-- The wording of a parse error. -/
def message : ParseError → String
  | .cancelled => "parse was cancelled"
  | .operationLimitExceeded limit =>
    s!"parse exceeded its operation limit of {limit.toMillis}ms"
  | .noGrammar => "cannot parse without a grammar"
  | .invalidRanges index =>
    s!"included range {index} is out of order or overlaps the previous range"
  | .incompatibleGrammar grammar message => s!"grammar '{grammar}' cannot be loaded: {message}"

/-- Whether the parser is fit for another attempt as it is. -/
def isRecoverable : ParseError → Bool
  | .cancelled | .operationLimitExceeded _ => true
  | .noGrammar | .invalidRanges _ | .incompatibleGrammar _ _ => false

end ParseError

end SyntaxForest
