import SyntaxForest.Query.Pattern

/-!
# Matches

The engine finds the structural matches of a query; the predicates of its patterns decide which of
them count. Predicates gate whole matches: a rejected match has no captures, and an accepted one has
all of them.

## Main definitions

* `PatternQuery.satisfies`, `PatternQuery.filter`: the verdict on a match, and the match behind it
* `MatchCursor`: runs of queries over trees, restricted to a part of the tree
-/

namespace SyntaxForest

/-- The nodes of a capture, in match order. -/
def QueryMatch.nodesFor (m : QueryMatch) (index : Nat) : List Node :=
  (m.captures.filter (·.index = index)).map (·.node)

/-- A match after its predicates were looked at. -/
structure FilteredMatch where
  /-- The engine's number for the match. -/
  id : Nat
  /-- The pattern that matches. -/
  pattern : Nat
  /-- The captures of an accepted match, none otherwise. -/
  captures : List Capture
  /-- Whether every predicate holds. -/
  isAccepted : Bool
  deriving Inhabited

namespace FilteredMatch

/-- Whether some predicate fails. -/
def isRejected (m : FilteredMatch) : Bool := !m.isAccepted

/-- The captures, if the match is accepted. -/
def intoCaptures (m : FilteredMatch) : Option (List Capture) :=
  if m.isAccepted then some m.captures else none

end FilteredMatch

namespace PatternQuery

/-- Every predicate of the match's pattern holds over the text. -/
def satisfies (q : PatternQuery) (m : QueryMatch) (source : Bytes) : Bool :=
  (q.predicates m.pattern).all (·.holds m.captures source)

/-- Looks at the predicates of a match. -/
def filter (q : PatternQuery) (m : QueryMatch) (source : Bytes) : FilteredMatch :=
  if q.satisfies m source then ⟨m.id, m.pattern, m.captures, true⟩ else ⟨m.id, m.pattern, [], false⟩

end PatternQuery

/-- The state of a series of runs. Restrictions apply to every run that starts later. -/
structure MatchCursor where
  /-- The part of the tree to look at. -/
  bounds : MatchBounds := {}
  /-- Whether the last run lost matches to the limit. -/
  isExceeded : Bool := false
  deriving Inhabited

namespace MatchCursor

/-- Restricts runs to matches that touch these bytes. -/
def withByteRange (c : MatchCursor) (start stop : Nat) : MatchCursor :=
  { c with bounds := { c.bounds with bytes := some (start, stop) } }

/-- Restricts runs to matches that touch these points. -/
def withPointRange (c : MatchCursor) (start stop : Point) : MatchCursor :=
  { c with bounds := { c.bounds with points := some (start, stop) } }

/-- Bounds the number of matches under way at once. -/
def withMatchLimit (c : MatchCursor) (limit : Nat) : MatchCursor :=
  { c with bounds := { c.bounds with limit := some limit } }

/-- The request for a run of a query under a node. -/
def request (c : MatchCursor) (q : PatternQuery) (root : Node) (byCapture : Bool) : MatchRequest :=
  ⟨q.grammar.language, q.structural, root, c.bounds, byCapture⟩

/-- Runs a query under a node: its structural matches, and the cursor after the run. -/
def findMatches {σ : Type} (c : MatchCursor) (engine : Engine σ) (q : PatternQuery) (root : Node) :
    StateM σ (List QueryMatch × MatchCursor) := do
  let answer ← engine.run (c.request q root false)
  return (answer.results.map (·.1), { c with isExceeded := answer.isExceeded })

/-- Runs a query under a node: its captures in document order, each with its match and its position
in it, and the cursor after the run. -/
def findCaptures {σ : Type} (c : MatchCursor) (engine : Engine σ) (q : PatternQuery) (root : Node) :
    StateM σ (List (QueryMatch × Nat) × MatchCursor) := do
  let answer ← engine.run (c.request q root true)
  return (answer.results.filterMap fun (m, position) => position.map (m, ·),
    { c with isExceeded := answer.isExceeded })

end MatchCursor

end SyntaxForest
