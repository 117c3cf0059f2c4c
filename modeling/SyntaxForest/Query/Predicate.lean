import SyntaxForest.Engine
import SyntaxForest.Query.Extraction
import SyntaxForest.Regex.Cache

/-!
# Predicates

A form becomes a predicate when its captures exist and its arguments suit its operator. A predicate
holds of the captures of a match, over the text that they span.

## Main definitions

* `Predicate`: the predicates, with the captures and strings that they speak about
* `Predicate.ofRaw`: the predicate of a form, or the first reason why it is none
* `Predicate.holds`: the truth of a predicate for the captures of a match
-/

namespace SyntaxForest.Query

/-- An argument whose capture has been found. -/
inductive Operand where
  /-- A capture, by its index. -/
  | capture (index : Nat)
  /-- A string. -/
  | literal (value : Bytes)
  deriving DecidableEq, Repr

/-- What a property says of its pattern. -/
inductive PropertyKind where
  /-- It is set. -/
  | set
  /-- It is asserted. -/
  | is
  /-- It is denied. -/
  | isNot
  deriving DecidableEq, Repr

/-- A predicate of a pattern. -/
inductive Predicate where
  /-- Equality of a capture's text with another capture's, or with a string; or its negation. -/
  | eq (left : Nat) (right : Operand) (negated : Bool)
  /-- A regular expression is found in a capture's text; or it is not. -/
  | isMatch (capture : Nat) (regex : Regex) (negated : Bool)
  /-- A property, which is kept for the caller and always holds. -/
  | property (kind : PropertyKind) (key : Bytes) (value : Option Bytes)
  /-- A predicate of an operator that is not known here, which always holds. -/
  | unknown (operator : Bytes) (arguments : List Operand)

/-- What an operator asks of its arguments. -/
inductive Operator where
  /-- `eq?` and `not-eq?` -/
  | eq (negated : Bool)
  /-- `match?` and `not-match?` -/
  | isMatch (negated : Bool)
  /-- `set!`, `is?` and `is-not?` -/
  | property (kind : PropertyKind)
  /-- Any other operator. -/
  | other
  deriving DecidableEq, Repr

/-- The operator of a name. -/
def Operator.ofName (name : Bytes) : Operator :=
  if name = Bytes.ofText "eq?" then .eq false
  else if name = Bytes.ofText "not-eq?" then .eq true
  else if name = Bytes.ofText "match?" then .isMatch false
  else if name = Bytes.ofText "not-match?" then .isMatch true
  else if name = Bytes.ofText "set!" then .property .set
  else if name = Bytes.ofText "is?" then .property .is
  else if name = Bytes.ofText "is-not?" then .property .isNot
  else .other

/-- Finds the capture of an argument. A name without one is an error where the argument was
written. -/
def Argument.resolve (source : Bytes) (index? : Bytes → Option Nat) :
    Argument → Except QueryError Operand
  | .literal value _ => .ok (.literal value)
  | .capture name offset =>
    match index? name with
    | some i => .ok (.capture i)
    | none => .error (.positioned source offset .unknownCapture)

/-- An argument as a message shows it. -/
def Argument.shown : Argument → String
  | .capture name _ => "@" ++ name.toText
  | .literal value _ => value.toText

namespace RawPredicate

/-- The error of a form without an operator. -/
def malformed (raw : RawPredicate) (source : Bytes) : QueryError :=
  .worded source raw.offset .malformedPredicate none "predicate must begin with a literal value"

/-- The error of a form with too few or too many arguments. -/
def wrongArity (raw : RawPredicate) (source name : Bytes) (expected : String) : QueryError :=
  .worded source raw.offset .wrongArity (some name)
    (s!"wrong number of arguments to `#{name.toText}` predicate. " ++
      s!"Expected {expected}, got {raw.arguments.length}")

/-- The error of an argument of the wrong kind. -/
def wrongKind (source name : Bytes) (argument : Argument) (ordinal expected : String) :
    QueryError :=
  .worded source argument.offset .wrongArgumentKind (some name)
    (s!"{ordinal} argument of `#{name.toText}` predicate must be {expected}. " ++
      s!"Got {argument.shown}")

/-- The error of a pattern that is no regular expression, with the reason that the dialect gives. -/
def invalidRegex (source name : Bytes) (offset : Nat) (reason : String) : QueryError :=
  .worded source offset .invalidRegex (some name)
    (s!"invalid regex in `#{name.toText}` predicate: " ++ reason)

/-- Finds the captures of all arguments, in order. -/
def resolveAll (source : Bytes) (index? : Bytes → Option Nat) :
    List Argument → Except QueryError (List (Argument × Operand))
  | [] => .ok []
  | a :: rest =>
    match a.resolve source index? with
    | .error e => .error e
    | .ok o =>
      match resolveAll source index? rest with
      | .error e => .error e
      | .ok os => .ok ((a, o) :: os)

/-- The equality predicate of these arguments. -/
def toEq (raw : RawPredicate) (source name : Bytes) (negated : Bool) :
    List (Argument × Operand) → Except QueryError Predicate
  | [(_, .capture left), (_, right)] => .ok (.eq left right negated)
  | [(a, .literal _), _] => .error (wrongKind source name a "first" "a capture")
  | _ => .error (raw.wrongArity source name "2")

/-- The property of these arguments. -/
def toProperty (raw : RawPredicate) (source name : Bytes) (kind : PropertyKind) :
    List (Argument × Operand) → Except QueryError Predicate
  | [(_, .literal key)] => .ok (.property kind key none)
  | [(_, .literal key), (_, .literal value)] => .ok (.property kind key (some value))
  | [(_, .literal _), (b, .capture _)] => .error (wrongKind source name b "second" "a string")
  | [(a, .capture _)] | [(a, .capture _), _] => .error (wrongKind source name a "first" "a string")
  | _ => .error (raw.wrongArity source name "1 or 2")

/-- The capture, the argument of the pattern and the pattern of a test for a regular expression. -/
def toMatch (raw : RawPredicate) (source name : Bytes) :
    List (Argument × Operand) → Except QueryError (Nat × Argument × Bytes)
  | [(_, .capture capture), (b, .literal pattern)] => .ok (capture, b, pattern)
  | [(_, .capture _), (b, .capture _)] => .error (wrongKind source name b "second" "a string")
  | [(a, .literal _), _] => .error (wrongKind source name a "first" "a capture")
  | _ => .error (raw.wrongArity source name "2")

end RawPredicate

/-- The predicate of a form, or the first reason why it is none: there is no operator, a capture
does not exist, the arguments are too few or too many, one of them is of the wrong kind, or the
pattern is no regular expression. Patterns are compiled through the cache. -/
def Predicate.ofRaw {dialect : Regex.Dialect} {hash : Bytes → UInt64} (raw : RawPredicate)
    (source : Bytes) (index? : Bytes → Option Nat) (cache : RegexCache dialect hash) :
    Except QueryError Predicate × RegexCache dialect hash :=
  match raw.operator with
  | none => (.error (raw.malformed source), cache)
  | some name =>
    match RawPredicate.resolveAll source index? raw.arguments with
    | .error e => (.error e, cache)
    | .ok arguments =>
      match Operator.ofName name with
      | .eq negated => (raw.toEq source name negated arguments, cache)
      | .property kind => (raw.toProperty source name kind arguments, cache)
      | .other => (.ok (.unknown name (arguments.map (·.2))), cache)
      | .isMatch negated =>
        match raw.toMatch source name arguments with
        | .error e => (.error e, cache)
        | .ok (capture, argument, pattern) =>
          match cache.getOrCompile pattern with
          | (.error reason, cache) =>
            (.error (RawPredicate.invalidRegex source name argument.offset reason), cache)
          | (.ok regex, cache) => (.ok (.isMatch capture regex negated), cache)

/-- The plain truth, or its negation. -/
def Predicate.verdict (negated holds : Bool) : Bool := holds != negated

/-- The texts of all occurrences of a capture, in match order. -/
def textsOf (index : Nat) (captures : List Capture) (source : Bytes) : List Bytes :=
  (captures.filter (·.index = index)).map (·.text source)

/-- The truth of a predicate for the captures of a match. A comparison of two captures looks at the
first occurrence of each, and equality fails when either does not occur; a comparison with a string
and a test for a regular expression ask every occurrence. Properties and predicates that are not
known here always hold. -/
def Predicate.holds (captures : List Capture) (source : Bytes) : Predicate → Bool
  | .eq left (.capture right) negated =>
    match (textsOf left captures source).head?, (textsOf right captures source).head? with
    | some a, some b => verdict negated (a = b)
    | _, _ => negated
  | .eq left (.literal value) negated =>
    (textsOf left captures source).all fun text => verdict negated (text = value)
  | .isMatch capture regex negated =>
    (textsOf capture captures source).all fun text => verdict negated (regex.isMatch text)
  | .property _ _ _ | .unknown _ _ => true

end SyntaxForest.Query
