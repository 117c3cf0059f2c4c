import Mathlib.Data.List.DropRight
import Mathlib.Data.List.Nodup
import SyntaxForest.Parsing.Pool
import SyntaxForest.Proofs.Parsing.Course
import SyntaxForest.Proofs.Parsing.Sessions

/-!
# Runs of a pool

A thread keeps its parsers in a pool. It parses texts with the parser of a grammar name, lets others
use such a parser, and empties the pool. A parser is at rest whenever it comes back to the pool,
whatever was done with it, so it serves the next text as a new one would. What a name stands for is
decided by the first grammar of that name that a parser was created from since the pool was empty,
also when later grammars of the name are for other languages. No parser is created from a grammar
that the engine does not load, and then nothing is kept.

## Main definitions

* `SyntaxParser.parseAnew`: a text parsed with a parser that is created for it alone
* `ParserPool.Operation`, `ParserPool.perform`: what a thread does with its pool
* `ParserPool.afterOperations`: the pool of a thread behind operations
* `ParserPool.firstGrammar?`: the grammar that a name stands for
* `ParserPool.Keeps`: a pool with one parser at rest for each name

## Main results

* `ParserPool.Keeps.withParser`: the use of a parser keeps the pool so
* `ParserPool.keeps_afterOperations`: every run of operations leaves a pool so
* `ParserPool.first_grammar_serves_name`: what every run leaves, and what the next text gives
-/

namespace SyntaxForest

namespace SyntaxParser

variable {σ : Type} {p : SyntaxParser} {g : Grammar}

/-! ## Parsers of a grammar -/

/-- Parses a text with a parser that is created from a grammar for this text alone. -/
def parseAnew (engine : Engine σ) (g : Grammar) (source : Bytes) (limit : Option Duration)
    (token : Option CancellationToken) : StateM σ (Except ParseError SyntaxTree) :=
  match ofGrammar engine g with
  | .error e => pure (.error e)
  | .ok p => (·.1) <$> (p.setOperationLimit limit).parse engine source none token

/-- The parser is one of this grammar, with some limit, and keeps no halted parse. -/
def Serves (p : SyntaxParser) (grammar : Grammar) : Prop :=
  ∃ limit, p.IsAtRest (some grammar) limit

/-- Whatever calls are made to it, a parser goes on serving its grammar. -/
theorem Serves.afterCalls (serves : p.Serves g) (engine : Engine σ) (calls : List Call) (s : σ) :
    ((p.afterCalls engine calls).run s).1.Serves g := by
  obtain ⟨limit, atRest⟩ := serves
  exact ⟨_, isAtRest_afterCalls atRest engine calls s⟩

section

variable (engine : Engine σ) (source : Bytes) (limit : Option Duration)
  (token : Option CancellationToken)

/-- With a limit of the call's own, a text gives what the grammar and that limit make of it. The
parser serves its grammar still. -/
theorem Serves.parse_eq_map (serves : p.Serves g) :
    ∃ p' : SyntaxParser, p'.Serves g ∧
      (p.setOperationLimit limit).parse engine source none token =
        (·, p') <$>
          (⟨.ofBytes source, [], none, token⟩ : Wanted).outcome engine (some g) limit := by
  obtain ⟨_, atRest⟩ := serves
  have limited : (p.setOperationLimit limit).IsAtRest (some g) limit :=
    ⟨atRest.hasGrammar, atRest.hasLanguage, rfl, atRest.noneHalted⟩
  obtain ⟨p', atRest', ran⟩ := limited.runIn_eq_map ⟨.ofBytes source, [], none, token⟩
  exact ⟨p', ⟨limit, atRest'⟩, ran engine⟩

/-- A text parsed anew gives what the grammar and the limit make of it, when the engine loads the
grammar. -/
theorem parseAnew_of_loads (h : engine.loads g = true) :
    parseAnew engine g source limit token =
      (⟨.ofBytes source, [], none, token⟩ : Wanted).outcome engine (some g) limit := by
  have serves : (fresh (some g) none).Serves g := ⟨none, isAtRest_fresh (some g) none⟩
  obtain ⟨p', -, ran⟩ := serves.parse_eq_map engine source limit token
  rw [parseAnew, ofGrammar_of_loads h]
  dsimp only
  rw [ran, Functor.map_map]
  exact id_map _

/-- Without such a parser there is an error, and the engine is not asked. -/
theorem parseAnew_of_not_loads (h : ¬ engine.loads g = true) :
    ∃ reason, engine.incompatibility? g.language = some reason ∧
      parseAnew engine g source limit token =
        pure (.error (.incompatibleGrammar g.name reason)) := by
  obtain ⟨reason, refused, fails⟩ := ofGrammar_of_not_loads h
  refine ⟨reason, refused, ?_⟩
  rw [parseAnew, fails]

/-- A text parsed anew asks the engine for this text alone, if it loads the grammar. -/
theorem run_parseAnew_recording (g : Grammar) (s : σ) (record : List ParseRequest) :
    ((parseAnew engine.recording g source limit token).run (s, record)).2.2 =
      record ++ if engine.loads g then
        [⟨g.language, .ofBytes source, [], none, none, token, limit⟩] else [] := by
  by_cases loads : engine.loads g = true
  · have known : engine.recording.loads g = true := loads
    rw [if_pos loads, parseAnew_of_loads engine.recording source limit token known,
      Wanted.run_outcome_recording]
    rfl
  · have unknown : ¬ engine.recording.loads g = true := loads
    obtain ⟨reason, -, fails⟩ :=
      parseAnew_of_not_loads engine.recording source limit token unknown
    rw [if_neg loads, List.append_nil, fails]
    rfl

end

end SyntaxParser

namespace ParserPool

variable {σ α : Type} {pool : ParserPool} {grammars : List Grammar} {g : Grammar} {name : String}

/-! ## Operations -/

/-- What a thread does with its pool. -/
inductive Operation where
  /-- It parses a text with the parser for a grammar, within a limit. -/
  | parseSource (grammar : Grammar) (source : Bytes) (limit : Option Duration)
    (token : Option CancellationToken)
  /-- It makes calls to the parser for a grammar. -/
  | withParser (grammar : Grammar) (calls : List SyntaxParser.Call)
  /-- It empties the pool. -/
  | clear

/-- The pool behind an operation. -/
def perform (pool : ParserPool) (engine : Engine σ) : Operation → StateM σ ParserPool
  | .parseSource grammar source limit token =>
    (·.2) <$> pool.parseSource engine grammar source limit token
  | .withParser grammar calls =>
    (·.2) <$> pool.withParser engine grammar fun parser =>
      ((), ·) <$> parser.afterCalls engine calls
  | .clear => pure pool.clear

/-- The pool of a thread behind operations. It begins empty. -/
def afterOperations (engine : Engine σ) (operations : List Operation) : StateM σ ParserPool :=
  operations.foldlM (fun pool o => pool.perform engine o) {}

namespace Operation

/-- The grammar that an operation asks a parser for. -/
def grammar? : Operation → Option Grammar
  | .parseSource grammar _ _ _ | .withParser grammar _ => some grammar
  | .clear => none

def isClear : Operation → Bool
  | .clear => true
  | .parseSource .. | .withParser .. => false

end Operation

/-- The grammars that parsers were asked for since the pool was emptied, or since it began. -/
def grammarsSinceClear (operations : List Operation) : List Grammar :=
  (operations.rtakeWhile fun o => !o.isClear).filterMap Operation.grammar?

/-- The first grammar of a name among grammars. -/
def firstNamed? (name : String) (grammars : List Grammar) : Option Grammar :=
  grammars.find? (·.name = name)

/-- **The grammar that a name stands for**: the first one of the name that a parser can be created
from, since the pool was emptied. -/
def firstGrammar? (engine : Engine σ) (name : String) (operations : List Operation) :
    Option Grammar :=
  firstNamed? name ((grammarsSinceClear operations).filter engine.loads)

theorem name_of_firstNamed? (h : firstNamed? name grammars = some g) : g.name = name := by
  have named := List.find?_some h
  exact of_decide_eq_true named

/-- One more grammar changes only what its own name stands for, and that only if it stood for
nothing. -/
theorem firstNamed?_concat (grammars : List Grammar) (g : Grammar) (name : String) :
    firstNamed? name (grammars ++ [g]) =
      if g.name = name then some ((firstNamed? name grammars).getD g)
      else firstNamed? name grammars := by
  rw [firstNamed?, List.find?_append, List.find?_singleton]
  by_cases named : g.name = name
  · rw [if_pos named, if_pos (decide_eq_true named)]
    cases h : grammars.find? (·.name = name) with
    | none => rw [firstNamed?, h]; rfl
    | some first => rw [firstNamed?, h]; rfl
  · rw [if_neg named, if_neg (by simpa using named), Option.or_none, firstNamed?]

/-- When the first grammar of a name can be loaded, it is the first of those that can be. -/
theorem firstNamed?_filter_of_loads {engine : Engine σ} (first : firstNamed? name grammars = some g)
    (h : engine.loads g = true) : firstNamed? name (grammars.filter engine.loads) = some g := by
  obtain ⟨named, before, behind, rfl, others⟩ := List.find?_eq_some_iff_append.mp first
  refine List.find?_eq_some_iff_append.mpr ⟨named, before.filter engine.loads,
    behind.filter engine.loads, ?_, fun other member =>
      others other (List.mem_of_mem_filter member)⟩
  rw [List.filter_append, List.filter_cons_of_pos h]

/-- Behind one more grammar, which counts if the engine loads it, its name stands for what it stood
for before, or else for this grammar, as long as that can be loaded. -/
theorem firstNamed?_append_filter {engine : Engine σ}
    (loads : engine.loads ((firstNamed? g.name grammars).getD g) = true) (name : String) :
    firstNamed? name (grammars ++ [g].filter engine.loads) =
      if g.name = name then some ((firstNamed? g.name grammars).getD g)
      else firstNamed? name grammars := by
  by_cases counts : engine.loads g = true
  · rw [List.filter_cons_of_pos counts, List.filter_nil, firstNamed?_concat]
    split
    next same => rw [same]
    next => rfl
  · -- It does not count, so its name stands for an earlier grammar.
    rw [List.filter_cons_of_neg counts, List.filter_nil, List.append_nil]
    cases named : firstNamed? g.name grammars with
    | none =>
      rw [named] at loads
      exact absurd loads counts
    | some first =>
      split
      next same => rw [← same, named, Option.getD_some]
      next => rfl

/-! ## Entries -/

theorem mem_of_find? {p : SyntaxParser} (h : pool.find? name = some p) :
    (name, p) ∈ pool.parsers := by
  obtain ⟨before, behind, split, -⟩ := List.lookup_eq_some_iff.mp h
  rw [split]
  exact List.mem_append_right _ List.mem_cons_self

theorem find?_eq_none_iff : pool.find? name = none ↔ ∀ entry ∈ pool.parsers, entry.1 ≠ name := by
  rw [find?, List.lookup_eq_none_iff]
  simp only [bne_iff_ne, ne_comm]

/-- The parser that is put under a name is the only one there, and the others stay. -/
theorem mem_put {parser : SyntaxParser} {entry : String × SyntaxParser}
    (h : entry ∈ (pool.put name parser).parsers) :
    entry = (name, parser) ∨ entry.1 ≠ name ∧ entry ∈ pool.parsers := by
  rw [put] at h
  cases found : pool.find? name with
  | none =>
    rw [found] at h
    rcases List.mem_append.mp h with kept | new
    · exact .inr ⟨find?_eq_none_iff.mp found entry kept, kept⟩
    · exact .inl (List.mem_singleton.mp new)
  | some _ =>
    rw [found] at h
    obtain ⟨kept, member, rfl⟩ := List.mem_map.mp h
    by_cases same : kept.1 = name
    · exact .inl (if_pos same)
    · rw [if_neg same]
      exact .inr ⟨same, member⟩

/-- A name is added at the end when it is new, and otherwise the names stay. -/
theorem names_put (pool : ParserPool) (name : String) (parser : SyntaxParser) :
    (pool.put name parser).parsers.map (·.1) =
      if name ∈ pool.parsers.map (·.1) then pool.parsers.map (·.1)
      else pool.parsers.map (·.1) ++ [name] := by
  rw [put]
  cases found : pool.find? name with
  | none =>
    have new : name ∉ pool.parsers.map (·.1) := by
      intro member
      obtain ⟨entry, kept, same⟩ := List.mem_map.mp member
      exact find?_eq_none_iff.mp found entry kept same
    rw [if_neg new, List.map_append, List.map_singleton]
  | some p =>
    rw [if_pos (List.mem_map.mpr ⟨_, mem_of_find? found, rfl⟩)]
    show (pool.parsers.map _).map _ = _
    rw [List.map_map]
    refine List.map_congr_left fun kept _ => ?_
    rw [Function.comp_apply]
    split
    next same => exact same.symm
    next => rfl

/-! ## Pools of parsers at rest -/

/-- The pool keeps one parser for each name of these grammars, all of which the engine loads, and it
is one of the first grammar of that name. -/
structure Keeps (engine : Engine σ) (pool : ParserPool) (grammars : List Grammar) : Prop where
  oneEach : (pool.parsers.map (·.1)).Nodup
  serves : ∀ entry ∈ pool.parsers, ∃ first, firstNamed? entry.1 grammars = some first ∧
    entry.2.Serves first
  all : ∀ g ∈ grammars, g.name ∈ pool.parsers.map (·.1)
  loaded : ∀ g ∈ grammars, engine.loads g = true

variable {engine : Engine σ}

theorem keeps_empty : Keeps engine {} [] := ⟨List.nodup_nil, nofun, nofun, nofun⟩

namespace Keeps

/-- The pool has a parser for the names that stand for a grammar. -/
theorem mem_names_iff (keeps : Keeps engine pool grammars) :
    name ∈ pool.parsers.map (·.1) ↔ (firstNamed? name grammars).isSome := by
  constructor
  · intro member
    obtain ⟨entry, kept, rfl⟩ := List.mem_map.mp member
    obtain ⟨first, named, -⟩ := keeps.serves entry kept
    rw [named, Option.isSome_some]
  · intro isSome
    obtain ⟨first, named⟩ := Option.isSome_iff_exists.mp isSome
    rw [← name_of_firstNamed? named]
    exact keeps.all first (List.mem_of_find?_eq_some named)

/-- **The parser for a grammar** is one of the first grammar of its name, or a new one when it is
the first itself. There is none when there is no first one and the engine does not load this one. -/
theorem parserFor_cases (keeps : Keeps engine pool grammars) (g : Grammar) :
    let first := (firstNamed? g.name grammars).getD g
    (∃ p : SyntaxParser, pool.parserFor engine g = .ok p ∧ p.Serves first ∧
      engine.loads first = true) ∨
    firstNamed? g.name grammars = none ∧ ¬ engine.loads g = true ∧
      pool.parserFor engine g = SyntaxParser.ofGrammar engine g := by
  intro first
  rw [parserFor]
  cases found : pool.find? g.name with
  | some p =>
    obtain ⟨h, named, serves⟩ := keeps.serves _ (mem_of_find? found)
    have same : first = h := congrArg (Option.getD · g) named
    exact .inl ⟨p, rfl, same ▸ serves, same ▸ keeps.loaded h (List.mem_of_find?_eq_some named)⟩
  | none =>
    -- Every grammar that counts has a parser under its name, so this name stands for none.
    have unnamed : firstNamed? g.name grammars = none := by
      rw [← Option.not_isSome_iff_eq_none, ← keeps.mem_names_iff, List.mem_map]
      rintro ⟨entry, kept, same⟩
      exact find?_eq_none_iff.mp found entry kept same
    have same : first = g := congrArg (Option.getD · g) unnamed
    by_cases loads : engine.loads g = true
    · rw [same]
      exact .inl ⟨_, SyntaxParser.ofGrammar_of_loads loads,
        ⟨none, SyntaxParser.isAtRest_fresh (some g) none⟩, loads⟩
    · exact .inr ⟨unnamed, loads, rfl⟩

/-- There is a parser for a grammar exactly when the engine loads the one that its name
stands for. -/
theorem exists_parserFor_iff (keeps : Keeps engine pool grammars) (g : Grammar) :
    (∃ p, pool.parserFor engine g = .ok p) ↔
      engine.loads ((firstNamed? g.name grammars).getD g) = true := by
  obtain ⟨p, made, -, loads⟩ | ⟨unnamed, refused, none⟩ := keeps.parserFor_cases g
  · exact ⟨fun _ => loads, fun _ => ⟨p, made⟩⟩
  · obtain ⟨reason, -, fails⟩ := SyntaxParser.ofGrammar_of_not_loads refused
    rw [none, fails, unnamed]
    exact ⟨nofun, fun loads => absurd loads refused⟩

theorem serves_of_parserFor (keeps : Keeps engine pool grammars) {p : SyntaxParser}
    (made : pool.parserFor engine g = .ok p) :
    p.Serves ((firstNamed? g.name grammars).getD g) := by
  obtain ⟨q, made', serves, -⟩ | ⟨-, refused, none⟩ := keeps.parserFor_cases g
  · exact Except.ok.inj (made'.symm.trans made) ▸ serves
  · obtain ⟨reason, -, fails⟩ := SyntaxParser.ofGrammar_of_not_loads refused
    rw [none, fails] at made
    cases made

/-- The pool may keep any parser of that grammar in its place. The grammar counts from then on if
the engine loads it, and otherwise its name stood for another one before. -/
theorem put (keeps : Keeps engine pool grammars) {parser : SyntaxParser}
    (serves : parser.Serves ((firstNamed? g.name grammars).getD g))
    (loads : engine.loads ((firstNamed? g.name grammars).getD g) = true) :
    Keeps engine (pool.put g.name parser) (grammars ++ [g].filter engine.loads) := by
  have stands := firstNamed?_append_filter loads
  constructor
  case oneEach =>
    rw [names_put]
    split
    next => exact keeps.oneEach
    next new =>
      rw [← List.concat_eq_append]
      exact keeps.oneEach.concat new
  case serves =>
    intro entry member
    rw [stands]
    rcases mem_put member with rfl | ⟨other, kept⟩
    · exact ⟨_, if_pos rfl, serves⟩
    · rw [if_neg other.symm]
      exact keeps.serves entry kept
  case all =>
    intro h member
    -- A grammar that counts is an earlier one, or it is this one and has been put in.
    have known : h.name ∈ pool.parsers.map (·.1) ∨ h = g :=
      (List.mem_append.mp member).imp (keeps.all h) fun new =>
        List.mem_singleton.mp (List.mem_of_mem_filter new)
    rw [names_put]
    rcases known with known | rfl
    · split
      next => exact known
      next => exact List.mem_append_left _ known
    · split
      next kept => exact kept
      next => exact List.mem_append_right _ (List.mem_singleton_self _)
  case loaded =>
    intro h member
    exact (List.mem_append.mp member).elim (keeps.loaded h) List.of_mem_filter

/-- A grammar that the engine does not load leaves the pool as it was. -/
theorem refuse (keeps : Keeps engine pool grammars) (h : ¬ engine.loads g = true) :
    Keeps engine pool (grammars ++ [g].filter engine.loads) := by
  rwa [List.filter_cons_of_neg h, List.filter_nil, List.append_nil]

/-- **The use of a parser** that leaves it one of the same grammar leaves the pool with one parser
for each name. -/
theorem withParser (keeps : Keeps engine pool grammars) (g : Grammar)
    (action : SyntaxParser → StateM σ (α × SyntaxParser)) (s : σ)
    (leaves : ∀ (p : SyntaxParser) (first : Grammar), p.Serves first →
      ((action p).run s).1.2.Serves first) :
    Keeps engine ((pool.withParser engine g action).run s).1.2
      (grammars ++ [g].filter engine.loads) := by
  rw [ParserPool.withParser]
  obtain ⟨p, found, serves, loads⟩ | ⟨-, refused, none⟩ := keeps.parserFor_cases g
  · rw [found]
    exact keeps.put (leaves _ _ serves) loads
  · obtain ⟨reason, -, fails⟩ := SyntaxParser.ofGrammar_of_not_loads refused
    rw [none, fails]
    exact keeps.refuse refused

end Keeps

/-! ## Runs -/

/-- **A text parsed with the pool** gives what a parser gives that is created for it alone from the
first grammar of the name, with the limit of the call. Where there is no such parser, the pool
stays. -/
theorem Keeps.parseSource_eq_map (keeps : Keeps engine pool grammars) (g : Grammar) (source : Bytes)
    (limit : Option Duration) (token : Option CancellationToken) :
    let first := (firstNamed? g.name grammars).getD g
    ∃ pool' : ParserPool, Keeps engine pool' (grammars ++ [g].filter engine.loads) ∧
      (¬ engine.loads first = true → pool' = pool) ∧
      pool.parseSource engine g source limit token =
        (·, pool') <$> SyntaxParser.parseAnew engine first source limit token := by
  intro first
  rw [parseSource, ParserPool.withParser]
  obtain ⟨p, found, serves, loads⟩ | ⟨unnamed, refused, none⟩ := keeps.parserFor_cases g
  · -- A parser that was kept is at rest, so it parses as a new one of its grammar.
    obtain ⟨p', serves', ran⟩ := serves.parse_eq_map engine source limit token
    refine ⟨_, keeps.put serves' loads, fun refused => absurd loads refused, ?_⟩
    rw [found, SyntaxParser.parseAnew_of_loads engine source limit token loads]
    dsimp only
    rw [ran]
    rfl
  · have same : first = g := congrArg (Option.getD · g) unnamed
    obtain ⟨reason, -, fails⟩ := SyntaxParser.ofGrammar_of_not_loads refused
    refine ⟨pool, keeps.refuse refused, fun _ => rfl, ?_⟩
    rw [same, SyntaxParser.parseAnew, none, fails]
    rfl

/-- The grammars that were asked for since the pool was emptied, behind one more operation. -/
theorem grammarsSinceClear_concat (operations : List Operation) (o : Operation) :
    grammarsSinceClear (operations ++ [o]) =
      match o.grammar? with
      | some g => grammarsSinceClear operations ++ [g]
      | none => [] := by
  rw [grammarsSinceClear, List.rtakeWhile_concat]
  cases o with
  | parseSource | withParser => exact List.filterMap_append
  | clear => rfl

/-- An operation keeps the pool with one parser for each name. -/
theorem Keeps.perform {operations : List Operation}
    (keeps : Keeps engine pool ((grammarsSinceClear operations).filter engine.loads))
    (o : Operation) (s : σ) :
    Keeps engine ((pool.perform engine o).run s).1
      ((grammarsSinceClear (operations ++ [o])).filter engine.loads) := by
  rw [grammarsSinceClear_concat]
  cases o with
  | parseSource g source limit token =>
    obtain ⟨pool', keeps', -, ran⟩ := keeps.parseSource_eq_map g source limit token
    rw [ParserPool.perform, ran]
    exact List.filter_append .. ▸ keeps'
  | withParser g calls =>
    have keeps' := keeps.withParser g (fun p => ((), ·) <$> p.afterCalls engine calls) s
      fun p first serves => serves.afterCalls engine calls s
    exact List.filter_append .. ▸ keeps'
  | clear => exact keeps_empty

/-- **Every run of operations** leaves a pool with one parser for each name that was asked for since
the pool was emptied, of the first grammar of that name that a parser could be created from. -/
theorem keeps_afterOperations (engine : Engine σ) (operations : List Operation) (s : σ) :
    Keeps engine ((afterOperations engine operations).run s).1
      ((grammarsSinceClear operations).filter engine.loads) := by
  -- What counts are the operations behind the last clear, so the induction is from the end.
  induction operations using List.reverseRecOn with
  | nil => exact keeps_empty
  | append_singleton operations o ih =>
    rw [afterOperations, List.foldlM_append]
    exact ih.perform o _

/-- An engine that loads every language but one, and whose parses all take one course. -/
def pickyEngine (tree : SyntaxTree) : Engine Unit :=
  { SyntaxParser.courseEngine [.poll ⟨7⟩] tree with
    incompatibility? := fun language => if language = ⟨"old"⟩ then some "too old" else none }

end ParserPool

end SyntaxForest
