import SyntaxForest.Tree.Node
import SyntaxForest.Grammar.Basic
import SyntaxForest.Parsing.Error

/-!
# The parsing engine

Parsing and structural matching are the work of an engine outside this library. An engine is an
oracle automaton: it answers requests from a state `σ` of its own, so its answers may depend on all
that it was asked before. Two things it does without a state: it says which languages it cannot
load, and it moves the nodes of a tree along with an edit of the text. Nothing here decides what an
answer may be.

## Main definitions

* `QueryShape`, `Refusal`: what the engine makes of a structural query
* `ParseRequest`, `ParseAnswer`, `Poll`: a parse, with what the engine saw when it asked whether to
  go on
* `MatchRequest`, `MatchRun`: a run of a query over a tree
* `Engine`: what an engine does
* `Engine.loads`: the grammars that there can be a parser for
* `Engine.absent`: an engine that does next to nothing, for others to build on
-/

namespace SyntaxForest

/-- How often a capture may occur in one match of a pattern. -/
inductive Quantifier where
  | zero
  | one
  | zeroOrOne
  | zeroOrMore
  | oneOrMore
  deriving DecidableEq, Repr

/-- What the engine makes of a structural query. -/
structure QueryShape where
  /-- The capture names, by index. -/
  captures : List Bytes
  /-- The byte where each pattern starts. -/
  starts : List Nat
  /-- How often each capture may occur in a match of each pattern. -/
  quantifiers : List (List Quantifier)
  deriving DecidableEq, Repr, Inhabited

/-- Why the engine refuses a structural query. -/
inductive Refusal.Kind where
  | malformed
  | nodeType
  | field
  | capture
  | predicate
  | structural
  | language
  deriving DecidableEq, Repr

/-- The engine's refusal of a structural query, at a byte of its text. -/
structure Refusal where
  /-- The reason. -/
  kind : Refusal.Kind
  /-- The byte. -/
  offset : Nat
  deriving DecidableEq, Repr

/-- A flag by which a caller stops a parse under way. It stays set once it is. -/
structure CancellationToken where
  /-- Whether the flag is set when the parse begins. -/
  isCancelled : Bool
  deriving DecidableEq, Repr

/-- Text as the engine reads it: what begins at a byte, which lies at a point. -/
abbrev Reader := Nat → Point → Bytes

/-- The reader of a text in one piece. -/
def Reader.ofBytes (source : Bytes) : Reader := fun offset _ => source.drop offset

/-- The reader of a text in pieces that begin at the multiples of `size`. -/
def Reader.inChunks (source : Bytes) (size : Nat) : Reader := fun offset _ =>
  (source.drop offset).take (size - offset % size)

/-- What the engine is asked to parse. -/
structure ParseRequest where
  /-- The language. -/
  language : Language
  /-- The text. -/
  read : Reader
  /-- The ranges to parse; none stands for the whole text. -/
  ranges : List Range
  /-- An older tree, edited to fit the text, whose unchanged parts may be used again. -/
  previous : Option SyntaxTree
  /-- A parse that was halted and not given up, which the engine takes up again instead. -/
  suspended : Option (Reader × List Range)
  /-- The flag that stops the parse. -/
  token : Option CancellationToken
  /-- The time that the parse may take. -/
  limit : Option Duration

/-- What the caller's flag and the clock say when the engine asks whether to go on. -/
structure Poll where
  /-- The flag is set. -/
  isCancelled : Bool
  /-- The time since the parse began. -/
  elapsed : Duration
  deriving DecidableEq, Repr

/-- The engine's answer to a parse. -/
structure ParseAnswer where
  /-- The tree, if the parse came to its end. -/
  tree : Option SyntaxTree
  /-- What the engine saw each time that it asked whether to go on. -/
  polls : List Poll
  /-- Whether the flag is set when the caller looks at the answer. -/
  isCancelledAfter : Bool
  deriving Inhabited

/-- A captured node with the index of its capture. -/
structure Capture where
  /-- The index of the capture's name. -/
  index : Nat
  /-- The node. -/
  node : Node
  deriving Inhabited

/-- The text that a capture spans: nothing when it does not lie in the source. -/
def Capture.text (c : Capture) (source : Bytes) : Bytes := c.node.range.text source

/-- A structural match, before predicates are looked at. -/
structure QueryMatch where
  /-- The engine's number for the match. -/
  id : Nat
  /-- The pattern that matches. -/
  pattern : Nat
  /-- The captures, in match order. -/
  captures : List Capture
  deriving Inhabited

/-- The part of a tree that a run is restricted to. -/
structure MatchBounds where
  /-- Bytes that a match must touch. -/
  bytes : Option (Nat × Nat) := none
  /-- Points that a match must touch. -/
  points : Option (Point × Point) := none
  /-- The number of matches that may be under way at once. -/
  limit : Option Nat := none
  deriving Repr, Inhabited

/-- A run of a structural query over a tree. -/
structure MatchRequest where
  /-- The language of the query. -/
  language : Language
  /-- The text of the structural query. -/
  query : Bytes
  /-- The root of the tree. -/
  root : Node
  /-- The part of the tree to look at. -/
  bounds : MatchBounds
  /-- Whether to answer captures in document order, each with its match, rather than matches. -/
  byCapture : Bool

/-- The answer to a run: the matches, each with the position of the capture that it is given for
when captures were asked for, and whether matches were lost to the limit. -/
structure MatchRun where
  /-- The matches. -/
  results : List (QueryMatch × Option Nat)
  /-- Whether matches were lost. -/
  isExceeded : Bool
  deriving Inhabited

/-- A parsing engine with state `σ`. -/
structure Engine (σ : Type) where
  /-- Why a language cannot be loaded, in the engine's words. There is no reason for one
  that can. -/
  incompatibility? : Language → Option String
  /-- The tree after an edit of its text. -/
  edit : SyntaxTree → TextEdit → SyntaxTree
  /-- Compiles a structural query. -/
  compile : Language → Bytes → StateM σ (Except Refusal QueryShape)
  /-- Parses a text. -/
  parse : ParseRequest → StateM σ ParseAnswer
  /-- The ranges in which two trees of one text differ. -/
  changedRanges : SyntaxTree → SyntaxTree → StateM σ (List Range)
  /-- Runs a query over a tree. -/
  run : MatchRequest → StateM σ MatchRun

/-- Whether the engine can load the language of a grammar. -/
def Engine.loads {σ : Type} (engine : Engine σ) (grammar : Grammar) : Bool :=
  (engine.incompatibility? grammar.language).isNone

/-- The engine that stands in where there is none. It loads every language and moves nodes, but
refuses every query, finishes no parse and finds nothing. -/
def Engine.absent : Engine Unit where
  incompatibility? _ := none
  edit tree e := tree.moved e
  compile _ _ := pure (.error ⟨.language, 0⟩)
  parse _ := pure ⟨none, [], false⟩
  changedRanges _ _ := pure []
  run _ := pure ⟨[], false⟩

end SyntaxForest
