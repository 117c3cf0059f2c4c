import SyntaxForest.Proofs.Parsing.Agreement
import SyntaxForest.Proofs.Query.Refusals

/-!
# Queries that are compiled again

An engine makes the same of a query whenever it is asked, and does not show later that it was asked.
So a query that was compiled before may stand for one that is compiled anew, through whichever
faithful cache of patterns.

## Main definitions

* `Engine.KeepsNoQueries`: an engine that shows nowhere which queries it has compiled
* `Engine.NamesOnOneLine`: an engine whose captures have names of one line
* `PatternQuery.CompilesTo`: what compiling a query gives, whenever it is done

## Main results

* `PatternQuery.exists_compilesTo`: compiling a query again gives the same
-/

namespace SyntaxForest

open RegexCache Query

variable {σ : Type}

/-- What the engine makes of a query depends on the query alone, and that a query was compiled shows
in no later answer. Which states are alike is left open: they may be equal, when compiling leaves no
trace in them. -/
structure Engine.KeepsNoQueries (engine : Engine σ) (alike : σ → σ → Prop) : Prop where
  /-- Being alike is an equivalence. -/
  equivalence : Equivalence alike
  /-- A query always compiles to the same, and leaves a state that is alike. -/
  compile : ∀ language text, ∃ answer, ∀ s,
    ((engine.compile language text).run s).1 = answer ∧
      alike s ((engine.compile language text).run s).2
  /-- Parses end alike. -/
  parse : ∀ request : ParseRequest, Agree alike (fun a b =>
      a.outcome request.token request.limit = b.outcome request.token request.limit)
    (engine.parse request) (engine.parse request)
  /-- A run of a query is answered alike. -/
  run : ∀ request, Agree alike (· = ·) (engine.run request) (engine.run request)

/-- The names of captures are words of one line. -/
def Engine.NamesOnOneLine (engine : Engine σ) : Prop :=
  ∀ language text s shape, ((engine.compile language text).run s).1 = .ok shape →
    ∀ name ∈ shape.captures, Ascii.newline ∉ name

namespace PatternQuery

variable {dialect : Regex.Dialect} {engine : Engine σ} {alike : σ → σ → Prop} {g : Grammar}
  {source : Bytes}

/-- Whenever the query is compiled, and through whichever faithful cache of the dialect, this comes
of it. -/
def CompilesTo (dialect : Regex.Dialect) (engine : Engine σ) (alike : σ → σ → Prop) (g : Grammar)
    (source : Bytes) (answer : Except QueryError PatternQuery) : Prop :=
  ∀ {hash : Bytes → UInt64} (c : RegexCache dialect hash), c.IsFaithful → ∀ s,
    ∃ (d : RegexCache dialect hash) (s' : σ),
      (compile engine g source c).run s = ((answer, d), s') ∧
      d.IsFaithful ∧ alike s s'

/-- **Compiling a query again gives the same.** -/
theorem exists_compilesTo (dialect : Regex.Dialect) (keeps : engine.KeepsNoQueries alike)
    (g : Grammar) (source : Bytes) : ∃ answer, CompilesTo dialect engine alike g source answer := by
  cases extracted : extract source with
  | error e =>
    refine ⟨.error e, fun c faithful s => ⟨c, s, ?_, faithful, keeps.equivalence.refl s⟩⟩
    rw [compile, extracted]
    rfl
  | ok e =>
    obtain ⟨shape, compiles⟩ := keeps.compile g.language e.structural
    obtain ⟨answer, assembles⟩ := exists_answers_assemble dialect g source e shape
    refine ⟨answer, fun c faithful s => ?_⟩
    obtain ⟨answered, states⟩ := compiles s
    generalize asked : (engine.compile g.language e.structural).run s = result at answered states
    obtain ⟨_, s'⟩ := result
    obtain rfl : _ = shape := answered
    obtain ⟨d, assembled, faithful'⟩ := assembles c faithful
    refine ⟨d, s', ?_, faithful', states⟩
    rw [compile, extracted]
    dsimp only at assembled ⊢
    rw [StateT.run_bind, asked, ← assembled]
    rfl

/-- A query has one result. -/
theorem CompilesTo.unique {a b : Except QueryError PatternQuery}
    (h : CompilesTo dialect engine alike g source a)
    (h' : CompilesTo dialect engine alike g source b) (s : σ) : a = b := by
  obtain ⟨_, _, ran, -⟩ := h (⟨[], 0⟩ : RegexCache dialect fun _ => 0) (isFaithful_empty 0) s
  obtain ⟨_, _, ran', -⟩ := h' (⟨[], 0⟩ : RegexCache dialect fun _ => 0) (isFaithful_empty 0) s
  rw [ran] at ran'
  exact congrArg (·.1.1) ran'

/-- The captures of a compiled query are those that the engine named. -/
theorem exists_shape_of_compile {hash : Bytes → UInt64} {c : RegexCache dialect hash}
    {q : PatternQuery} {s : σ} (h : ((compile engine g source c).run s).1.1 = .ok q) :
    ∃ text shape, ((engine.compile g.language text).run s).1 = .ok shape ∧
      q.captureNames = shape.captures := by
  cases extracted : extract source with
  | error e =>
    rw [run_compile_of_extract_error extracted] at h
    cases h
  | ok e =>
    generalize asked : (engine.compile g.language e.structural).run s = answered
    obtain ⟨shape, s'⟩ := answered
    cases shape with
    | error refusal =>
      rw [compile, extracted] at h
      dsimp only at h
      rw [StateT.run_bind, asked] at h
      cases h
    | ok shape =>
      rw [run_compile_eq_map c extracted asked] at h
      cases read : (readPredicates source shape e.predicates c).1 with
      | error e => rw [read] at h; cases h
      | ok attached =>
        rw [read] at h
        cases h
        exact ⟨e.structural, shape, congrArg Prod.fst asked, rfl⟩

end PatternQuery

end SyntaxForest
