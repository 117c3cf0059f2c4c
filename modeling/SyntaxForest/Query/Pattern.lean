import SyntaxForest.Query.Predicate

/-!
# Pattern queries

A pattern query is a structural query that the engine has compiled, with the predicates of its
patterns. Each predicate form belongs to the pattern that starts last at or before it. Nothing is
compiled by halves: the first defect refuses the whole query, the reader's defects first, then the
engine's, then those of the forms in source order.

## Main definitions

* `patternAt?`: the pattern of a form, by the byte where the form opens
* `readPredicates`: the predicates of all forms, each with its pattern
* `PatternQuery`, `PatternQuery.compile`: a compiled query
-/

namespace SyntaxForest.Query

/-- The pattern that starts last at or before an offset. -/
def patternAt? (starts : List Nat) (offset : Nat) : Option (Fin starts.length) :=
  have bound : (starts.takeWhile (· ≤ offset)).length ≤ starts.length :=
    (List.takeWhile_prefix _).length_le
  if h : 0 < (starts.takeWhile (· ≤ offset)).length then
    some ⟨(starts.takeWhile (· ≤ offset)).length - 1, by omega⟩
  else none

/-- The index of a capture name: the first one of that name. -/
def captureIndex? (captures : List Bytes) (name : Bytes) : Option Nat :=
  captures.findIdx? (· = name)

/-- The predicates of all forms, in source order, each with its pattern. The first form that is no
predicate, or that no pattern holds, refuses them all. -/
def readPredicates {dialect : Regex.Dialect} {hash : Bytes → UInt64} (source : Bytes)
    (shape : QueryShape) : List RawPredicate → RegexCache dialect hash →
      Except QueryError (List (Fin shape.starts.length × Predicate)) × RegexCache dialect hash
  | [], cache => (.ok [], cache)
  | raw :: rest, cache =>
    match Predicate.ofRaw raw source (captureIndex? shape.captures) cache with
    | (.error e, cache) => (.error e, cache)
    | (.ok predicate, cache) =>
      match patternAt? shape.starts raw.offset with
      | none => (.error (.positioned source raw.offset .impossibleStructure), cache)
      | some pattern =>
        match readPredicates source shape rest cache with
        | (.error e, cache) => (.error e, cache)
        | (.ok predicates, cache) => (.ok ((pattern, predicate) :: predicates), cache)

end SyntaxForest.Query

namespace SyntaxForest

open Query

/-- The kind of error that a refusal by the engine is. -/
def Refusal.Kind.toErrorKind : Refusal.Kind → QueryError.Kind
  | .malformed => .malformed
  | .nodeType => .unknownNodeType
  | .field => .unknownField
  | .capture => .unknownCapture
  | .predicate => .malformedPredicate
  | .structural => .impossibleStructure
  | .language => .grammarMismatch

/-- The error that reports a refusal at its place in the query as it was written. -/
def Refusal.report (r : Refusal) (source : Bytes) : QueryError :=
  .positioned source r.offset r.kind.toErrorKind

/-- A compiled query. -/
structure PatternQuery where
  /-- The grammar that it was compiled for. -/
  grammar : Grammar
  /-- The text that the engine compiled, without predicate forms. -/
  structural : Bytes
  /-- What the engine made of it. -/
  shape : QueryShape
  /-- The predicates in source order, each with its pattern. -/
  attached : List (Fin shape.starts.length × Predicate)

namespace PatternQuery

/-- The number of patterns. -/
def patternCount (q : PatternQuery) : Nat := q.shape.starts.length

/-- The capture names, by index. -/
def captureNames (q : PatternQuery) : List Bytes := q.shape.captures

/-- The name of a capture. -/
def captureName? (q : PatternQuery) (index : Nat) : Option Bytes := q.shape.captures[index]?

/-- The index of a capture name. -/
def captureIndex? (q : PatternQuery) (name : Bytes) : Option Nat :=
  Query.captureIndex? q.shape.captures name

/-- How often a capture may occur in one match of a pattern. -/
def quantifier? (q : PatternQuery) (pattern index : Nat) : Option Quantifier :=
  q.shape.quantifiers[pattern]?.bind (·[index]?)

/-- The predicates of a pattern, in source order. -/
def predicates (q : PatternQuery) (pattern : Nat) : List Predicate :=
  (q.attached.filter (·.1 = pattern)).map (·.2)

/-- A pattern past the end has no predicates. -/
theorem predicates_eq_nil_of_le (q : PatternQuery) {pattern : Nat} (h : q.patternCount ≤ pattern) :
    q.predicates pattern = [] := by
  rw [predicates, List.map_eq_nil_iff, List.filter_eq_nil_iff]
  intro x _ at_pattern
  have inside : x.1.val < q.patternCount := x.1.isLt
  have same : x.1.val = pattern := by simpa using at_pattern
  omega

/-- The pairs that a pattern sets, in source order. -/
def propertySettings (q : PatternQuery) (pattern : Nat) : List (Bytes × Option Bytes) :=
  (q.predicates pattern).filterMap fun
    | .property .set key value => some (key, value)
    | _ => none

/-- Joins the engine's answer with the predicate forms. -/
def assemble {dialect : Regex.Dialect} {hash : Bytes → UInt64} (grammar : Grammar) (source : Bytes)
    (e : Extraction) (cache : RegexCache dialect hash) :
    Except Refusal QueryShape → Except QueryError PatternQuery × RegexCache dialect hash
  | .error refusal => (.error (refusal.report source), cache)
  | .ok shape =>
    match readPredicates source shape e.predicates cache with
    | (.error err, cache) => (.error err, cache)
    | (.ok attached, cache) => (.ok ⟨grammar, e.structural, shape, attached⟩, cache)

/-- Compiles a query for a grammar. -/
def compile {σ : Type} {dialect : Regex.Dialect} {hash : Bytes → UInt64} (engine : Engine σ)
    (grammar : Grammar) (source : Bytes) (cache : RegexCache dialect hash) :
    StateM σ (Except QueryError PatternQuery × RegexCache dialect hash) :=
  match extract source with
  | .error e => pure (.error e, cache)
  | .ok e => do
    let answer ← engine.compile grammar.language e.structural
    return assemble grammar source e cache answer

end PatternQuery

end SyntaxForest
