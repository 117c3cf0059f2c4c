import SyntaxForest.Parsing.Parser
import SyntaxForest.Query.Match

/-!
# Parses with and without an older tree

An older tree is there to save the engine work. The engine may look at it, so two runs that differ
in their older trees may leave the engine in different states and let it ask a different number of
times whether to go on. What such runs show is compared here step by step, over states of the engine
that later answers cannot tell apart.

## Main definitions

* `Agree`: two computations with related results, from states that are alike to states that are
  alike
* `ParseAnswer.outcome`: the tree of a parse, or why it was halted
* `Engine.IgnoresPrevious`: an engine whose trees and halts do not depend on the older tree

## Main results

* `Agree.bind`: computations in turn
* `SyntaxParser.agree_parse`, `SyntaxParser.agree_parseRanges`: parses with different older trees
-/

namespace SyntaxForest

variable {σ α β γ δ : Type}

/-! ## Computations that agree -/

/-- From states that are alike, the two computations give related results and leave states that are
alike. -/
def Agree (alike : σ → σ → Prop) (R : α → β → Prop) (x : StateM σ α) (y : StateM σ β) : Prop :=
  ∀ s t, alike s t → R (x.run s).1 (y.run t).1 ∧ alike (x.run s).2 (y.run t).2

namespace Agree

variable {alike : σ → σ → Prop} {R : α → β → Prop} {S : γ → δ → Prop}

theorem pure {a : α} {b : β} (h : R a b) :
    Agree alike R (Pure.pure a : StateM σ α) (Pure.pure b : StateM σ β) :=
  fun _ _ states => ⟨h, states⟩

/-- Computations in turn agree when what follows agrees on related results. -/
theorem bind {x : StateM σ α} {y : StateM σ β} {f : α → StateM σ γ} {g : β → StateM σ δ}
    (first : Agree alike R x y) (later : ∀ a b, R a b → Agree alike S (f a) (g b)) :
    Agree alike S (x >>= f) (y >>= g) := by
  intro s t states
  obtain ⟨result, states'⟩ := first s t states
  rw [StateT.run_bind, StateT.run_bind]
  exact later _ _ result _ _ states'

/-- Results of computations that agree may be used alike. -/
theorem map {x : StateM σ α} {y : StateM σ β} {f : α → γ} {g : β → δ} (first : Agree alike R x y)
    (later : ∀ a b, R a b → S (f a) (g b)) : Agree alike S (f <$> x) (g <$> y) := by
  intro s t states
  obtain ⟨result, states'⟩ := first s t states
  rw [StateT.run_map, StateT.run_map]
  exact ⟨later _ _ result, states'⟩

end Agree

/-! ## Engines -/

/-- The tree of a parse, or why it was halted. -/
def ParseAnswer.outcome (token : Option CancellationToken) (limit : Option Duration)
    (answer : ParseAnswer) : Except ParseError SyntaxTree :=
  match answer.tree with
  | some tree => .ok tree
  | none => .error (haltError token limit answer)

/-- From states that are alike, the engine gives the same tree or halts for the same reason whatever
the older tree is, and runs of queries are answered alike. Which states are alike is left open: they
may be equal, when an older tree leaves no trace in them, or all of them, when the engine answers by
what it is asked alone. -/
structure Engine.IgnoresPrevious (engine : Engine σ) (alike : σ → σ → Prop) : Prop where
  /-- Parses end alike, whatever the older trees are. -/
  parse : ∀ (request : ParseRequest) (older other : Option SyntaxTree),
    Agree alike (fun a b => a.outcome request.token request.limit =
        b.outcome request.token request.limit)
      (engine.parse { request with previous := older })
      (engine.parse { request with previous := other })
  /-- A run of a query is answered alike. -/
  run : ∀ request, Agree alike (· = ·) (engine.run request) (engine.run request)

/-! ## Parsers -/

namespace SyntaxParser

variable {engine : Engine σ} {alike : σ → σ → Prop} {token : Option CancellationToken}

/-- A parser with a grammar shows the outcome of the engine's parse, and leaves no halted parse. -/
theorem run_eq_map (p : SyntaxParser) {grammar : Grammar} {language : Language} (read : Reader)
    (previous : Option SyntaxTree) (hasGrammar : p.grammar = some grammar)
    (hasLanguage : p.inner.language = some language) :
    p.run engine read previous token =
      (fun answer : ParseAnswer =>
        (answer.outcome token p.operationLimit, { p with inner := p.inner.reset })) <$>
          engine.parse ⟨language, read, p.inner.ranges, previous, p.inner.suspended, token,
            p.operationLimit⟩ := by
  refine funext fun s => ?_
  rw [run, hasGrammar, hasLanguage]
  show StateT.run _ s = StateT.run _ s
  rw [StateT.run_map, StateT.run_bind, EngineParser.parse, StateT.run_bind]
  generalize StateT.run (engine.parse _) s = result
  obtain ⟨⟨tree, polls, after⟩, s'⟩ := result
  -- A parse that gave a tree leaves none that was halted, and a halted one is given up.
  cases tree with
  | some tree => rfl
  | none => rfl

variable (ignores : engine.IgnoresPrevious alike) (p : SyntaxParser)
  (older other : Option SyntaxTree)

include ignores

theorem agree_run (read : Reader) :
    Agree alike (· = ·) (p.run engine read older token) (p.run engine read other token) := by
  cases hasGrammar : p.grammar with
  | none =>
    rw [run, run, hasGrammar]
    exact Agree.pure rfl
  | some grammar =>
  cases hasLanguage : p.inner.language with
  | none =>
    rw [run, run, hasGrammar, hasLanguage]
    exact Agree.pure rfl
  | some language =>
    rw [p.run_eq_map read older hasGrammar hasLanguage,
      p.run_eq_map read other hasGrammar hasLanguage]
    intro s t states
    obtain ⟨outcome, states'⟩ := ignores.parse
      ⟨language, read, p.inner.ranges, older, p.inner.suspended, token, p.operationLimit⟩
      older other
      s t states
    rw [StateT.run_map, StateT.run_map]
    exact ⟨congrArg (·, { p with inner := p.inner.reset }) outcome, states'⟩

theorem agree_runIn (ranges : List Range) (read : Reader) :
    Agree alike (· = ·) (p.runIn engine ranges read older token)
      (p.runIn engine ranges read other token) := by
  rw [runIn, runIn]
  cases p.inner.setRanges ranges with
  | error index => exact Agree.pure rfl
  | ok inner => exact agree_run ignores { p with inner } older other read

/-- Parses of a text with different older trees agree, and leave the same parser. -/
theorem agree_parse (source : Bytes) :
    Agree alike (· = ·) (p.parse engine source older token) (p.parse engine source other token) :=
  agree_runIn ignores p older other [] (.ofBytes source)

/-- Parses of parts of a text with different older trees agree, and leave the same parser. -/
theorem agree_parseRanges (source : Bytes) (ranges : List Range) :
    Agree alike (· = ·) (p.parseRanges engine source older ranges token)
      (p.parseRanges engine source other ranges token) :=
  agree_runIn ignores p older other ranges (.ofBytes source)

end SyntaxParser

/-- Runs of a query from one cursor agree, and leave the same cursor. -/
theorem MatchCursor.agree_findMatches {engine : Engine σ} {alike : σ → σ → Prop}
    (ignores : engine.IgnoresPrevious alike) (cursor : MatchCursor) (q : PatternQuery)
    (root : Node) :
    Agree alike (· = ·) (cursor.findMatches engine q root) (cursor.findMatches engine q root) :=
  Agree.bind (ignores.run (cursor.request q root false)) fun _ _ same => Agree.pure (by rw [same])

end SyntaxForest
