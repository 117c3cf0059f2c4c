import SyntaxForest.Proofs.Regex.CacheHistory
import SyntaxForest.Query.Match
import SyntaxForest.Regex.Parser

/-!
# Queries and the cache of their patterns

A query compiles its regular expressions through the cache that earlier queries left. What it
compiles to, and so what it accepts, is the same through every faithful cache: each stage of the
compilation reads the cache only to compile a pattern, and hands on a faithful cache.

## Main results

* `exists_answers_readPredicates`: predicate forms are read alike through every faithful cache
* `PatternQuery.exists_answers_compile`: so are whole queries
* `PatternQuery.cache_shows_nothing`: what calls to a cache answer, and what queries behind them do
-/

namespace SyntaxForest

open RegexCache

variable (dialect : Regex.Dialect)

namespace Query

/-- A predicate form is read alike through every faithful cache. -/
theorem exists_answers_ofRaw (raw : RawPredicate) (source : Bytes)
    (index? : Bytes → Option Nat) :
    ∃ answer, Answers dialect (fun c => Predicate.ofRaw raw source index? c) answer := by
  unfold Predicate.ofRaw
  cases raw.operator with
  | none => exact ⟨_, Answers.pure _⟩
  | some name =>
  dsimp only
  cases RawPredicate.resolveAll source index? raw.arguments with
  | error e => exact ⟨_, Answers.pure _⟩
  | ok arguments =>
  dsimp only
  cases Operator.ofName name with
  | eq negated => exact ⟨_, Answers.pure _⟩
  | property kind => exact ⟨_, Answers.pure _⟩
  | other => exact ⟨_, Answers.pure _⟩
  | isMatch negated =>
  dsimp only
  cases raw.toMatch source name arguments with
  | error e => exact ⟨_, Answers.pure _⟩
  | ok found =>
  -- Only a pattern that stands where one may stand is looked for in the cache.
  obtain ⟨capture, argument, pattern⟩ := found
  dsimp only
  cases compiled : dialect.compile pattern with
  | error reason =>
    refine ⟨.error (RawPredicate.invalidRegex source name argument.offset reason),
      fun c faithful => ?_⟩
    obtain ⟨d, answered, faithful'⟩ := answers_getOrCompile pattern c faithful
    dsimp only at answered ⊢
    exact ⟨d, by rw [answered, compiled], faithful'⟩
  | ok regex =>
    refine ⟨.ok (.isMatch capture regex negated), fun c faithful => ?_⟩
    obtain ⟨d, answered, faithful'⟩ := answers_getOrCompile pattern c faithful
    dsimp only at answered ⊢
    exact ⟨d, by rw [answered, compiled], faithful'⟩

/-- Predicate forms are read alike through every faithful cache. -/
theorem exists_answers_readPredicates (source : Bytes) (shape : QueryShape)
    (raws : List RawPredicate) :
    ∃ answer, Answers dialect (fun c => readPredicates source shape raws c) answer := by
  induction raws with
  | nil => exact ⟨_, Answers.pure _⟩
  | cons raw rest ih =>
    obtain ⟨first, reads⟩ := exists_answers_ofRaw dialect raw source (captureIndex? shape.captures)
    obtain ⟨later, readsRest⟩ := ih
    -- What is read first decides whether the cache behind it is used again.
    cases first with
    | error e =>
      refine ⟨.error e, fun c faithful => ?_⟩
      obtain ⟨d, read, faithful'⟩ := reads c faithful
      dsimp only at read ⊢
      exact ⟨d, by rw [readPredicates, read], faithful'⟩
    | ok predicate =>
    cases place : patternAt? shape.starts raw.offset with
    | none =>
      refine ⟨.error (.positioned source raw.offset .impossibleStructure), fun c faithful => ?_⟩
      obtain ⟨d, read, faithful'⟩ := reads c faithful
      dsimp only at read ⊢
      exact ⟨d, by simp only [readPredicates, read, place], faithful'⟩
    | some pattern =>
      refine ⟨later.map ((pattern, predicate) :: ·), fun c faithful => ?_⟩
      obtain ⟨d, read, faithful'⟩ := reads c faithful
      obtain ⟨d', readRest, faithful''⟩ := readsRest d faithful'
      refine ⟨d', ?_, faithful''⟩
      dsimp only at read readRest ⊢
      simp only [readPredicates, read, place, readRest]
      cases later with
      | error e => rfl
      | ok predicates => rfl

end Query

namespace PatternQuery

open Query

variable {σ : Type} (engine : Engine σ) (grammar : Grammar) (source : Bytes)

/-- The engine's answer and the predicate forms are joined alike through every faithful cache. -/
theorem exists_answers_assemble (e : Extraction) (shape : Except Refusal QueryShape) :
    ∃ answer, Answers dialect (fun c => assemble grammar source e c shape) answer := by
  cases shape with
  | error refusal => exact ⟨_, Answers.pure _⟩
  | ok shape =>
    obtain ⟨read, reads⟩ := exists_answers_readPredicates dialect source shape e.predicates
    refine ⟨read.map (⟨grammar, e.structural, shape, ·⟩), fun c faithful => ?_⟩
    obtain ⟨d, answered, faithful'⟩ := reads c faithful
    refine ⟨d, ?_, faithful'⟩
    dsimp only at answered ⊢
    simp only [assemble, answered]
    cases read with
    | error e => rfl
    | ok attached => rfl

/-- A query compiles alike through every faithful cache, and the engine is asked alike. -/
theorem exists_answers_compile (s : σ) :
    ∃ answer s', ∀ {hash : Bytes → UInt64} (c : RegexCache dialect hash), c.IsFaithful →
      ∃ d : RegexCache dialect hash, (compile engine grammar source c).run s = ((answer, d), s') ∧
        d.IsFaithful := by
  cases extracted : extract source with
  | error e =>
    refine ⟨.error e, s, fun c faithful => ⟨c, ?_, faithful⟩⟩
    rw [compile, extracted]
    rfl
  | ok e =>
    generalize asked : (engine.compile grammar.language e.structural).run s = result
    obtain ⟨shape, s'⟩ := result
    obtain ⟨answer, assembles⟩ := exists_answers_assemble dialect grammar source e shape
    refine ⟨answer, s', fun c faithful => ?_⟩
    obtain ⟨d, assembled, faithful'⟩ := assembles c faithful
    refine ⟨d, ?_, faithful'⟩
    rw [compile, extracted]
    dsimp only at assembled ⊢
    rw [StateT.run_bind, asked, ← assembled]
    rfl

/-- **A cache of patterns shows nothing but its size.** Whatever the dialect and the hash are, calls
to a cache that begins empty are answered as if every pattern were compiled when it is asked for,
and each entry of the cache stands under the hash of its own pattern, with what that pattern
compiles to. So the next pattern is answered by what it compiles to as well, never by the regular
expression of another pattern. A query compiles alike behind any two histories of calls in one
dialect, even with two hashes and capacities, asks the engine alike, and leaves a cache of the same
kind; the compiled query gives every match the same verdict over every text. -/
theorem cache_shows_nothing (dialect : Regex.Dialect) (hash : Bytes → UInt64) (capacity : Nat)
    (calls : List Call) :
    ((⟨[], capacity⟩ : RegexCache dialect hash).run calls).1 = calls.map (Call.plain dialect) ∧
    (afterCalls dialect hash capacity calls).IsFaithful ∧
    (∀ pattern, ((afterCalls dialect hash capacity calls).getOrCompile pattern).1 =
        dialect.compile pattern ∧
      (((afterCalls dialect hash capacity calls).getOrCompile pattern).1.map (·.pattern)) =
        (dialect.compile pattern).map fun _ => pattern) ∧
    ∀ (hash' : Bytes → UInt64) (capacity' : Nat) (calls' : List Call) {σ : Type}
      (engine : Engine σ) (grammar : Grammar) (source : Bytes) (s : σ),
      ((compile engine grammar source (afterCalls dialect hash capacity calls)).run s).1.1 =
        ((compile engine grammar source (afterCalls dialect hash' capacity' calls')).run s).1.1 ∧
      ((compile engine grammar source (afterCalls dialect hash capacity calls)).run s).2 =
        ((compile engine grammar source (afterCalls dialect hash' capacity' calls')).run s).2 ∧
      ((compile engine grammar source
        (afterCalls dialect hash capacity calls)).run s).1.2.IsFaithful ∧
      ∀ (m : QueryMatch) (text : Bytes),
        ((compile engine grammar source (afterCalls dialect hash capacity calls)).run s).1.1.map
            (·.filter m text) =
          ((compile engine grammar source
            (afterCalls dialect hash' capacity' calls')).run s).1.1.map
            (·.filter m text) := by
  have faithful := isFaithful_afterCalls dialect hash capacity calls
  refine ⟨?_, faithful, fun pattern => ?_, ?_⟩
  · obtain ⟨d, ran, -⟩ :=
      answers_run calls (⟨[], capacity⟩ : RegexCache dialect hash) (isFaithful_empty capacity)
    exact congrArg Prod.fst ran
  · obtain ⟨d, answered, -⟩ := answers_getOrCompile pattern _ faithful
    have plain := congrArg Prod.fst answered
    dsimp only at plain
    refine ⟨plain, ?_⟩
    rw [plain]
    cases compiled : dialect.compile pattern with
    | error e => rfl
    | ok regex => exact congrArg Except.ok (dialect.pattern_eq compiled)
  · intro hash' capacity' calls' σ engine grammar source s
    obtain ⟨answer, s', compiles⟩ := exists_answers_compile dialect engine grammar source s
    obtain ⟨d, here, faithful'⟩ := compiles _ faithful
    obtain ⟨d', there, -⟩ := compiles _ (isFaithful_afterCalls dialect hash' capacity' calls')
    rw [here, there]
    exact ⟨rfl, rfl, faithful', fun m text => rfl⟩

/-- Under a hash that all patterns share, two of them take each other's place in a cache for one
entry, and each is answered by what it compiles to. -/
theorem cache_shows_nothing_of_collision :
    ∃ a b : Bytes, a ≠ b ∧
      (afterCalls .standard (fun _ => 0) 1 [.getOrCompile a, .getOrCompile b]).entries.map
        (·.pattern) = [b] ∧
      ((⟨[], 1⟩ : RegexCache .standard fun _ => 0).run
          [.getOrCompile a, .getOrCompile b, .getOrCompile a]).1 =
        [some (Regex.Dialect.standard.compile a), some (Regex.Dialect.standard.compile b),
          some (Regex.Dialect.standard.compile a)] := by
  refine ⟨Bytes.ofText "a", Bytes.ofText "b", by decide, by decide +kernel, ?_⟩
  exact (cache_shows_nothing .standard (fun _ => 0) 1
    [.getOrCompile (Bytes.ofText "a"), .getOrCompile (Bytes.ofText "b"),
      .getOrCompile (Bytes.ofText "a")]).1

end PatternQuery

end SyntaxForest
