import SyntaxForest.Proofs.Parsing.Agreement
import SyntaxForest.Proofs.Parsing.Requests

/-!
# Sessions with a parser

The engine's machine remembers the ranges that it was given and a parse that was halted. A parser
sets the ranges before every parse and gives a halted parse up, so between two calls it is at rest:
all that it keeps from the calls before is the limit that was set last. A call therefore asks the
engine for its own text in its own ranges and gives what it would give on a new parser, whatever the
calls before it were and however they ended.

## Main definitions

* `SyntaxParser.Call`, `SyntaxParser.call`: the calls to a parser
* `SyntaxParser.fresh`: a new parser
* `SyntaxParser.Call.requests`: what a call asks the engine for, by itself
* `SyntaxParser.IsAtRest`: a parser that keeps no halted parse
* `SyntaxParser.afterCalls`: the parser behind calls

## Main results

* `SyntaxParser.IsAtRest.call_eq_map`: what a parser at rest gives, and that it stays at rest
* `SyntaxParser.isAtRest_afterCalls`: a parser is at rest behind every session
* `SyntaxParser.call_shows_no_earlier_call`: a call of a session is as on a new parser
-/

namespace SyntaxForest.SyntaxParser

variable {σ : Type} {grammar : Option Grammar} {limit : Option Duration} {p : SyntaxParser}

/-! ## Calls -/

/-- A call to a parser. -/
inductive Call where
  | parse (source : Bytes) (previous : Option SyntaxTree) (token : Option CancellationToken)
  | parseWith (read : Reader) (previous : Option SyntaxTree) (token : Option CancellationToken)
  | parseRanges (source : Bytes) (previous : Option SyntaxTree) (ranges : List Range)
    (token : Option CancellationToken)
  | setOperationLimit (limit : Option Duration)
  | setEngineLogging (on : Bool)

/-- What a call gives, if it parses, and the parser behind it. -/
def call (p : SyntaxParser) (engine : Engine σ) :
    Call → StateM σ (Option (Except ParseError SyntaxTree) × SyntaxParser)
  | .parse source previous token => do
    let (outcome, p) ← p.parse engine source previous token
    return (some outcome, p)
  | .parseWith read previous token => do
    let (outcome, p) ← p.parseWith engine read previous token
    return (some outcome, p)
  | .parseRanges source previous ranges token => do
    let (outcome, p) ← p.parseRanges engine source previous ranges token
    return (some outcome, p)
  | .setOperationLimit limit => return (none, p.setOperationLimit limit)
  | .setEngineLogging on => return (none, p.setEngineLogging on)

/-- The parser behind calls in turn. -/
def afterCalls (p : SyntaxParser) (engine : Engine σ) (calls : List Call) : StateM σ SyntaxParser :=
  calls.foldlM (fun p c => (·.2) <$> p.call engine c) p

/-! ## New parsers -/

/-- A new parser of a grammar, or without one, with a limit. -/
def fresh (grammar : Option Grammar) (limit : Option Duration) : SyntaxParser where
  inner := { language := grammar.map (·.language) }
  grammar
  operationLimit := limit

/-- A parser is created from the grammars that the engine loads. -/
theorem ofGrammar_of_loads {engine : Engine σ} {g : Grammar} (h : engine.loads g = true) :
    ofGrammar engine g = .ok (fresh (some g) none) := by
  have loaded : engine.incompatibility? g.language = none := Option.isNone_iff_eq_none.mp h
  rw [ofGrammar, EngineParser.setLanguage, loaded]
  rfl

/-- There is none for another grammar, and the error has the engine's reason. -/
theorem ofGrammar_of_not_loads {engine : Engine σ} {g : Grammar} (h : ¬ engine.loads g = true) :
    ∃ reason, engine.incompatibility? g.language = some reason ∧
      ofGrammar engine g = .error (.incompatibleGrammar g.name reason) := by
  obtain ⟨reason, refused⟩ :=
    Option.ne_none_iff_exists'.mp (mt Option.isNone_iff_eq_none.mpr h)
  refine ⟨reason, refused, ?_⟩
  rw [ofGrammar, EngineParser.setLanguage, refused]

/-! ## Requests -/

/-- What a call wants parsed. -/
structure Wanted where
  read : Reader
  /-- None stands for the whole text. -/
  ranges : List Range
  previous : Option SyntaxTree
  token : Option CancellationToken

namespace Call

/-- What a call wants parsed, if anything. -/
def wanted? : Call → Option Wanted
  | .parse source previous token => some ⟨.ofBytes source, [], previous, token⟩
  | .parseWith read previous token => some ⟨read, [], previous, token⟩
  | .parseRanges source previous ranges token => some ⟨.ofBytes source, ranges, previous, token⟩
  | .setOperationLimit _ | .setEngineLogging _ => none

def limitAfter (limit : Option Duration) : Call → Option Duration
  | .setOperationLimit limit => limit
  | .parse .. | .parseWith .. | .parseRanges .. | .setEngineLogging _ => limit

end Call

/-- The engine's request for what is wanted: the text, the ranges and the older tree, and no halted
parse. -/
def Wanted.request (w : Wanted) (language : Language) (limit : Option Duration) : ParseRequest where
  language
  read := w.read
  ranges := w.ranges
  previous := w.previous
  suspended := none
  token := w.token
  limit

/-- **What the engine is asked for** where this is wanted: one parse, or nothing when the ranges are
out of order or there is no grammar. -/
def Wanted.requests (w : Wanted) (limit : Option Duration) : Option Grammar → List ParseRequest
  | some g => if Range.Ordered w.ranges then [w.request g.language limit] else []
  | none => []

def Call.requests (grammar : Option Grammar) (limit : Option Duration) (c : Call) :
    List ParseRequest :=
  match c.wanted? with
  | some w => w.requests limit grammar
  | none => []

/-! ## Parsers at rest -/

/-- The parser has this grammar and this limit, and keeps no halted parse. -/
structure IsAtRest (p : SyntaxParser) (grammar : Option Grammar) (limit : Option Duration) :
    Prop where
  hasGrammar : p.grammar = grammar
  hasLanguage : p.inner.language = grammar.map (·.language)
  hasLimit : p.operationLimit = limit
  noneHalted : p.inner.suspended = none

theorem isAtRest_fresh (grammar : Option Grammar) (limit : Option Duration) :
    (fresh grammar limit).IsAtRest grammar limit := ⟨rfl, rfl, rfl, rfl⟩

/-- What comes of it, by a grammar and a limit alone. -/
def Wanted.outcome (w : Wanted) (engine : Engine σ) (grammar : Option Grammar)
    (limit : Option Duration) : StateM σ (Except ParseError SyntaxTree) :=
  match firstDisorder? 0 0 w.ranges, grammar with
  | some index, _ => pure (.error (.invalidRanges index))
  | none, none => pure (.error .noGrammar)
  | none, some g =>
    ParseAnswer.outcome w.token limit <$> engine.parse (w.request g.language limit)

/-- A parser at rest with a grammar shows the outcome of the engine's parse, and is left as it was:
where no halted parse is kept, giving one up changes nothing. -/
theorem IsAtRest.run_eq_map {g : Grammar} (atRest : p.IsAtRest (some g) limit) (engine : Engine σ)
    (read : Reader) (previous : Option SyntaxTree) (token : Option CancellationToken) :
    p.run engine read previous token =
      (·, p) <$> ParseAnswer.outcome token limit <$>
        engine.parse ⟨g.language, read, p.inner.ranges, previous, none, token, limit⟩ := by
  obtain ⟨⟨language, ranges, suspended, isLogging⟩, grammar, limit'⟩ := p
  obtain ⟨rfl, rfl, rfl, rfl⟩ := atRest
  rw [SyntaxParser.run_eq_map _ read previous rfl rfl, Functor.map_map]
  rfl

/-- **A parser at rest** gives what its grammar and its limit make of what is wanted, and stays at
rest. The parser that it leaves does not depend on the engine. -/
theorem IsAtRest.runIn_eq_map (atRest : p.IsAtRest grammar limit) (w : Wanted) :
    ∃ p' : SyntaxParser, p'.IsAtRest grammar limit ∧ ∀ {σ : Type} (engine : Engine σ),
      p.runIn engine w.ranges w.read w.previous w.token =
        (·, p') <$> w.outcome engine grammar limit := by
  unfold runIn EngineParser.setRanges Wanted.outcome
  cases firstDisorder? 0 0 w.ranges with
  | some index => exact ⟨p, atRest, fun engine => rfl⟩
  | none =>
    -- The ranges are all that changes.
    have inRanges :
        IsAtRest { p with inner := { p.inner with ranges := w.ranges } } grammar limit :=
      ⟨atRest.hasGrammar, atRest.hasLanguage, atRest.hasLimit, atRest.noneHalted⟩
    refine ⟨_, inRanges, fun engine => ?_⟩
    cases grammar with
    | none =>
      show run _ engine _ _ _ = _
      rw [run, inRanges.hasGrammar]
      rfl
    | some g => exact inRanges.run_eq_map engine w.read w.previous w.token

/-! ## Calls to a parser at rest -/

section

variable {c : Call} {w : Wanted}

theorem call_of_wanted? (h : c.wanted? = some w) (engine : Engine σ) :
    p.call engine c = (fun result => (some result.1, result.2)) <$>
      p.runIn engine w.ranges w.read w.previous w.token := by
  cases c with
  | parse | parseWith | parseRanges =>
    obtain rfl := Option.some.inj h
    rfl
  | setOperationLimit | setEngineLogging => cases h

theorem Call.limitAfter_of_wanted? (h : c.wanted? = some w) : c.limitAfter limit = limit := by
  cases c with
  | parse | parseWith | parseRanges | setEngineLogging => rfl
  | setOperationLimit => cases h

end

/-- What a call gives, by a grammar and a limit alone. -/
def Call.outcome (c : Call) (engine : Engine σ) (grammar : Option Grammar)
    (limit : Option Duration) :
    StateM σ (Option (Except ParseError SyntaxTree)) :=
  match c.wanted? with
  | some w => some <$> w.outcome engine grammar limit
  | none => pure none

/-- **A call to a parser at rest** gives what the grammar and the limit make of it, and leaves the
parser at rest, with another limit if it sets one. -/
theorem IsAtRest.call_eq_map (atRest : p.IsAtRest grammar limit) (c : Call) :
    ∃ p' : SyntaxParser, p'.IsAtRest grammar (c.limitAfter limit) ∧
      ∀ {σ : Type} (engine : Engine σ),
        p.call engine c = (·, p') <$> c.outcome engine grammar limit := by
  unfold Call.outcome
  cases wants : c.wanted? with
  | some w =>
    obtain ⟨p', atRest', ran⟩ := atRest.runIn_eq_map w
    refine ⟨p', (Call.limitAfter_of_wanted? wants).symm ▸ atRest', fun engine => ?_⟩
    rw [call_of_wanted? wants, ran, Functor.map_map, Functor.map_map]
  | none =>
    cases c with
    | setOperationLimit limit' =>
      exact ⟨p.setOperationLimit limit', ⟨atRest.hasGrammar, atRest.hasLanguage, rfl,
        atRest.noneHalted⟩, fun engine => rfl⟩
    | setEngineLogging on =>
      exact ⟨p.setEngineLogging on, ⟨atRest.hasGrammar, atRest.hasLanguage, atRest.hasLimit,
        atRest.noneHalted⟩, fun engine => rfl⟩
    | parse | parseWith | parseRanges => cases wants

section

variable (engine : Engine σ) (grammar : Option Grammar) (limit : Option Duration) (s : σ)
  (record : List ParseRequest)

/-- Beside a record the same comes of it, and the engine is asked for its own requests. -/
theorem Wanted.run_outcome_recording (w : Wanted) :
    (w.outcome engine.recording grammar limit).run (s, record) =
      (((w.outcome engine grammar limit).run s).1,
        (((w.outcome engine grammar limit).run s).2, record ++ w.requests limit grammar)) := by
  unfold Wanted.outcome
  cases grammar with
  | none =>
    rw [Wanted.requests, List.append_nil]
    cases firstDisorder? 0 0 w.ranges with
    | some index => rfl
    | none => rfl
  | some g =>
    rw [Wanted.requests]
    by_cases ordered : Range.Ordered w.ranges
    · rw [if_pos ordered, show firstDisorder? 0 0 w.ranges = none from ordered]
      rfl
    · obtain ⟨index, disorder⟩ := Option.ne_none_iff_exists'.mp ordered
      rw [if_neg ordered, List.append_nil, disorder]
      rfl

theorem Call.run_outcome_recording (c : Call) :
    (c.outcome engine.recording grammar limit).run (s, record) =
      (((c.outcome engine grammar limit).run s).1,
        (((c.outcome engine grammar limit).run s).2, record ++ c.requests grammar limit)) := by
  unfold Call.outcome Call.requests
  cases c.wanted? with
  | some w =>
    exact congrArg (Prod.map some id) (w.run_outcome_recording engine grammar limit s record)
  | none => exact congrArg ((none, s, ·)) (List.append_nil record).symm

end

/-! ## Sessions -/

/-- **Behind every session** a parser is at rest, with the limit that was set last. -/
theorem isAtRest_afterCalls (atRest : p.IsAtRest grammar limit) (engine : Engine σ)
    (calls : List Call) (s : σ) :
    ((p.afterCalls engine calls).run s).1.IsAtRest grammar (calls.foldl Call.limitAfter limit) := by
  -- The limit goes along the calls, so it is general in the induction, with the engine's state.
  induction calls generalizing p limit s with
  | nil => exact atRest
  | cons c rest ih =>
    obtain ⟨p', atRest', ran⟩ := atRest.call_eq_map c
    rw [afterCalls, List.foldlM_cons, ran, StateT.run_bind, List.foldl_cons]
    exact ih atRest' _

/-- **A call shows no earlier call.** However a session with a parser went, with whatever engine,
the next call asks the engine for its own text, in its own ranges, with its own older tree, and not
for a halted parse to be taken up; or for nothing when its ranges are out of order, there is no
grammar or it does not parse. It gives what it would give on a new parser of the same grammar, with
the limit that was set last, and leaves the engine in the same state. -/
theorem call_shows_no_earlier_call (engine : Engine σ) (grammar : Option Grammar)
    (limit : Option Duration) (calls : List Call) (c : Call) (s : σ) :
    let reached := ((fresh grammar limit).afterCalls engine calls).run s
    let lastLimit := calls.foldl Call.limitAfter limit
    (∀ record, ((reached.1.call engine.recording c).run (reached.2, record)).2.2 =
      record ++ c.requests grammar lastLimit) ∧
    ((reached.1.call engine c).run reached.2).1.1 =
      (((fresh grammar lastLimit).call engine c).run reached.2).1.1 ∧
    ((reached.1.call engine c).run reached.2).2 =
      (((fresh grammar lastLimit).call engine c).run reached.2).2 := by
  intro reached lastLimit
  have atRest : reached.1.IsAtRest grammar lastLimit :=
    isAtRest_afterCalls (isAtRest_fresh grammar limit) engine calls s
  obtain ⟨p, -, ran⟩ := atRest.call_eq_map c
  obtain ⟨q, -, ran'⟩ := (isAtRest_fresh grammar lastLimit).call_eq_map c
  refine ⟨fun record => ?_, ?_, ?_⟩
  · rw [ran, StateT.run_map, c.run_outcome_recording]
    rfl
  · rw [ran, ran', StateT.run_map, StateT.run_map]
    rfl
  · rw [ran, ran', StateT.run_map, StateT.run_map]
    rfl

end SyntaxForest.SyntaxParser
