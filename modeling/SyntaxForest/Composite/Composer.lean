import SyntaxForest.Composite.Tree
import SyntaxForest.Parsing.Parser
import SyntaxForest.Query.Match

/-!
# Composing documents

A composer parses a document with its primary grammar, finds the anchors in the tree with a query,
and parses the region of each anchor with its secondary grammar. When an older composite is at hand,
its trees serve as starting points: the primary tree for the primary one, and the tree of each
region for the region with the same ordinal.

## Main definitions

* `ComposeError`: why there is no composite
* `Composer`, `Composer.create`: two parsers and an anchor query
* `Composer.regions`, `Composer.parseRegions`: the regions of a document, and their trees
* `Composer.build`, `Composer.rebuild`: a composite from scratch, or from an older one
-/

namespace SyntaxForest

/-- Why a document cannot be composed. -/
inductive ComposeError where
  /-- There is no parser of one of the grammars. -/
  | setup (reason : ParseError)
  /-- The primary parse failed. -/
  | primary (reason : ParseError)
  /-- The parse of the region with this ordinal failed. -/
  | secondary (ordinal : Nat) (reason : ParseError)
  /-- The anchor query has not exactly one pattern and one capture. -/
  | invalidAnchorQuery (patterns captures : Nat)
  /-- The anchor query does not compile. -/
  | query (reason : QueryError)
  deriving DecidableEq, Repr

namespace ComposeError

/-- The wording of a composition error. -/
def message : ComposeError → String
  | .setup reason => s!"cannot configure parser: {reason.message}"
  | .primary reason => s!"primary parse failed: {reason.message}"
  | .secondary ordinal reason => s!"secondary parse #{ordinal} failed: {reason.message}"
  | .invalidAnchorQuery patterns captures =>
    "anchor query must have exactly one pattern and one capture " ++
      s!"(found {patterns} pattern(s), {captures} capture(s))"
  | .query reason => s!"invalid anchor query: {reason.message}"

/-- The error of the parse that failed. -/
def parseError? : ComposeError → Option ParseError
  | .primary reason | .secondary _ reason => some reason
  | .setup _ | .invalidAnchorQuery _ _ | .query _ => none

/-- The wording of the error behind it. -/
def cause? : ComposeError → Option String
  | .setup reason | .primary reason | .secondary _ reason => some reason.message
  | .invalidAnchorQuery _ _ => none
  | .query reason => some reason.message

end ComposeError

/-- Two parsers and the query that finds the anchors. -/
structure Composer where
  /-- The parser of the whole document. -/
  primary : SyntaxParser
  /-- The parser of the regions. -/
  secondary : SyntaxParser
  /-- The query whose captures are the anchors. -/
  anchor : PatternQuery
  /-- The cursor that runs the query. -/
  cursor : MatchCursor := {}

namespace Composer

/-- The composer of two grammars with a compiled anchor query, which must have exactly one pattern
and one capture. -/
def ofQuery {σ : Type} (engine : Engine σ) (primary secondary : Grammar) (anchor : PatternQuery) :
    Except ComposeError Composer :=
  if anchor.patternCount = 1 ∧ anchor.captureNames.length = 1 then do
    let primary ← (SyntaxParser.ofGrammar engine primary).mapError .setup
    let secondary ← (SyntaxParser.ofGrammar engine secondary).mapError .setup
    return { primary, secondary, anchor }
  else .error (.invalidAnchorQuery anchor.patternCount anchor.captureNames.length)

/-- The composer of two grammars with an anchor query, compiled for the primary one. -/
def create {σ : Type} {dialect : Regex.Dialect} {hash : Bytes → UInt64} (engine : Engine σ)
    (primary secondary : Grammar) (anchor : Bytes) (cache : RegexCache dialect hash) :
    StateM σ (Except ComposeError Composer × RegexCache dialect hash) := do
  match ← PatternQuery.compile engine primary anchor cache with
  | (.error e, cache) => return (.error (.query e), cache)
  | (.ok query, cache) => return (ofQuery engine primary secondary query, cache)

/-- Sets the time that each parse may take. -/
def setOperationLimit (c : Composer) (limit : Option Duration) : Composer :=
  { c with primary := c.primary.setOperationLimit limit,
           secondary := c.secondary.setOperationLimit limit }

/-- The regions of a document: one for each capture of each match that satisfies the anchor query,
in match order. -/
def regions (anchor : PatternQuery) (source : Bytes) (found : List QueryMatch) : List Region :=
  (found.filter (anchor.satisfies · source)).flatMap fun m =>
    m.captures.map fun capture => Region.ofNode capture.node

/-- Parses regions in turn, the first of them with the given ordinal. Each parse starts from the
older tree of the same ordinal, and the first that fails ends them. -/
def parseRegions {σ : Type} (engine : Engine σ) (source : Bytes) (older : List SecondaryTree)
    (token : Option CancellationToken) (parser : SyntaxParser) (ordinal : Nat) :
    List Region → StateM σ (Except ComposeError (List SecondaryTree) × SyntaxParser)
  | [] => pure (.ok [], parser)
  | region :: rest => do
    let old := older[ordinal]?
    let (result, parser) ←
      parser.parseRanges engine source (old.map (·.tree)) region.ranges token
    match result with
    | .error e => return (.error (.secondary ordinal e), parser)
    | .ok tree =>
      let (later, parser) ← parseRegions engine source older token parser (ordinal + 1) rest
      return (later.map (⟨tree, region, ordinal, old.isSome⟩ :: ·), parser)

/-- Composes a document, from an older composite if there is one. -/
def compose {σ : Type} (c : Composer) (engine : Engine σ) (source : Bytes)
    (previous : Option CompositeTree) (token : Option CancellationToken) :
    StateM σ (Except ComposeError CompositeTree × Composer) := do
  let (result, primary) ← c.primary.parse engine source (previous.map (·.primary)) token
  let c := { c with primary }
  match result with
  | .error e => return (.error (.primary e), c)
  | .ok tree =>
    let (found, cursor) ← c.cursor.findMatches engine c.anchor tree.root
    let older := (previous.map (·.secondaries)).getD []
    let (result, secondary) ←
      parseRegions engine source older token c.secondary 0 (regions c.anchor source found)
    return (result.map (.of tree), { c with cursor, secondary })

/-- Composes a document from scratch. -/
def build {σ : Type} (c : Composer) (engine : Engine σ) (source : Bytes)
    (token : Option CancellationToken) : StateM σ (Except ComposeError CompositeTree × Composer) :=
  c.compose engine source none token

/-- Composes a document from an older composite, which must have seen every edit since. -/
def rebuild {σ : Type} (c : Composer) (engine : Engine σ) (previous : CompositeTree)
    (source : Bytes) (token : Option CancellationToken) :
    StateM σ (Except ComposeError CompositeTree × Composer) :=
  c.compose engine source (some previous) token

end Composer

end SyntaxForest
