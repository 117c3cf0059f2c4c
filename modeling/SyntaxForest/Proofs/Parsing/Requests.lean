import SyntaxForest.Parsing.Parser

/-!
# What the engine is asked to parse

An engine that keeps a record of the parses that it is asked for answers as it does without the
record. Its record tells with which ranges, older tree and halted parse a text was parsed, for a
single parse and for any chain of them.

## Main definitions

* `Engine.recording`: the engine with its record
* `Asks`: a computation asks only for parses of a kind, and its result is of a kind

## Main results

* `Asks.bind`: computations in turn
* `SyntaxParser.asks_runIn`: what a parse in ranges asks for, and when it refuses the ranges
-/

namespace SyntaxForest

variable {σ α β : Type}

/-- An action of the engine leaves a record that lies beside its state. -/
def besideRecord (action : StateM σ α) : StateM (σ × List ParseRequest) α := fun state =>
  let (answer, s) := action.run state.1
  (answer, (s, state.2))

/-- **The engine with a record** of the parses that it was asked for, the last one at the end. -/
def Engine.recording (engine : Engine σ) : Engine (σ × List ParseRequest) where
  incompatibility? := engine.incompatibility?
  edit := engine.edit
  compile language text := besideRecord (engine.compile language text)
  parse request := do
    let answer ← besideRecord (engine.parse request)
    modify fun state => (state.1, state.2 ++ [request])
    return answer
  changedRanges older newer := besideRecord (engine.changedRanges older newer)
  run request := besideRecord (engine.run request)

/-- `recorded` is `plain` beside a record. It only asks for parses that satisfy `P`, and its result
satisfies `Q`. -/
def Asks (P : ParseRequest → Prop) (Q : α → Prop) (recorded : StateM (σ × List ParseRequest) α)
    (plain : StateM σ α) : Prop :=
  ∀ s record, ∃ asked,
    recorded.run (s, record) = ((plain.run s).1, ((plain.run s).2, record ++ asked)) ∧
    (∀ r ∈ asked, P r) ∧ Q (plain.run s).1

namespace Asks

variable {P : ParseRequest → Prop} {Q : α → Prop} {R : β → Prop}

theorem pure {a : α} (h : Q a) :
    Asks P Q (Pure.pure a : StateM (σ × List ParseRequest) α) (Pure.pure a : StateM σ α) := by
  intro s record
  refine ⟨[], ?_, by simp, h⟩
  rw [List.append_nil]
  rfl

/-- Computations in turn ask for what the first asks for and then for what the second does. -/
theorem bind {recorded : StateM (σ × List ParseRequest) α} {plain : StateM σ α}
    {next : α → StateM (σ × List ParseRequest) β} {next' : α → StateM σ β}
    (first : Asks P Q recorded plain) (later : ∀ a, Q a → Asks P R (next a) (next' a)) :
    Asks P R (recorded >>= next) (plain >>= next') := by
  intro s record
  obtain ⟨asked, run, satisfied, result⟩ := first s record
  obtain ⟨asked', run', satisfied', result'⟩ :=
    later _ result (plain.run s).2 (record ++ asked)
  refine ⟨asked ++ asked', ?_, ?_, ?_⟩
  · rw [StateT.run_bind, run, ← List.append_assoc]
    exact run'
  · intro r hr
    rcases List.mem_append.mp hr with hr | hr
    · exact satisfied r hr
    · exact satisfied' r hr
  · rw [StateT.run_bind]
    exact result'

theorem imp {Q' : α → Prop} {recorded : StateM (σ × List ParseRequest) α} {plain : StateM σ α}
    (h : Asks P Q recorded plain) (weaker : ∀ a, Q a → Q' a) : Asks P Q' recorded plain := by
  intro s record
  obtain ⟨asked, run, satisfied, result⟩ := h s record
  exact ⟨asked, run, satisfied, weaker _ result⟩

/-- A run of a query asks for no parse. -/
theorem run (engine : Engine σ) (request : MatchRequest) (Q : MatchRun → Prop)
    (h : ∀ s, Q ((engine.run request).run s).1) :
    Asks P Q (engine.recording.run request) (engine.run request) := by
  intro s record
  refine ⟨[], ?_, by simp, h s⟩
  rw [List.append_nil]
  rfl

/-- A parse asks for itself. -/
theorem parse (engine : Engine σ) {request : ParseRequest} (h : P request) :
    Asks P (fun _ => True) (engine.recording.parse request) (engine.parse request) := by
  intro s record
  refine ⟨[request], rfl, ?_, trivial⟩
  simpa using h

end Asks

/-! ## Parsers -/

/-- Why a parse was halted is never that its ranges are out of order. -/
theorem haltError_ne_invalidRanges (token : Option CancellationToken) (limit : Option Duration)
    (answer : ParseAnswer) (index : Nat) : haltError token limit answer ≠ .invalidRanges index := by
  unfold haltError
  dsimp only
  split
  · exact nofun
  · exact nofun

section

variable {P : ParseRequest → Prop} (engine : Engine σ) {read : Reader}
  {previous : Option SyntaxTree} {token : Option CancellationToken}

/-- The engine's parser asks for one parse in the ranges that are set. A parse that gives a tree
leaves none behind that was halted. -/
theorem EngineParser.asks_parse (p : EngineParser) {language : Language} {limit : Option Duration}
    (h : P ⟨language, read, p.ranges, previous, p.suspended, token, limit⟩) :
    Asks P (fun result => result.1.tree.isSome = true → result.2.suspended = none)
      (p.parse engine.recording language read previous token limit)
      (p.parse engine language read previous token limit) :=
  Asks.bind (Asks.parse engine h) fun _ _ => Asks.pure fun isSome => if_pos isSome

namespace SyntaxParser

variable (p : SyntaxParser)

/-- A parse asks the engine for one parse at most, in the ranges that are set. No halted parse stays
behind, and the ranges are not refused. -/
theorem asks_run
    (h : ∀ language, P ⟨language, read, p.inner.ranges, previous, p.inner.suspended, token,
      p.operationLimit⟩) :
    Asks P (fun result => (p.inner.suspended = none → result.2.inner.suspended = none) ∧
        ∀ index, result.1 ≠ .error (.invalidRanges index))
      (p.run engine.recording read previous token) (p.run engine read previous token) := by
  unfold run
  split
  next language _ _ =>
    refine Asks.bind (p.inner.asks_parse engine (h language)) ?_
    rintro ⟨answer, inner⟩ finished
    dsimp only
    split
    next tree found =>
      refine Asks.pure ⟨fun _ => finished ?_, nofun⟩
      rw [found, Option.isSome_some]
    next =>
      -- The parser gives a halted parse up.
      refine Asks.pure ⟨fun _ => rfl, fun index same => ?_⟩
      exact haltError_ne_invalidRanges _ _ _ index (Except.error.inj same)
  next => exact Asks.pure ⟨id, nofun⟩

/-- **A parse in ranges** asks the engine for one parse at most, in these ranges. No halted parse
stays behind, and the ranges are refused only when they are out of order. -/
theorem asks_runIn {ranges : List Range}
    (h : ∀ language, P ⟨language, read, ranges, previous, p.inner.suspended, token,
      p.operationLimit⟩) :
    Asks P (fun result => (p.inner.suspended = none → result.2.inner.suspended = none) ∧
        (Range.Ordered ranges → ∀ index, result.1 ≠ .error (.invalidRanges index)))
      (p.runIn engine.recording ranges read previous token)
      (p.runIn engine ranges read previous token) := by
  unfold runIn EngineParser.setRanges
  cases disorder : firstDisorder? 0 0 ranges with
  | some index =>
    refine Asks.pure ⟨id, fun ordered => ?_⟩
    rw [Range.Ordered, disorder] at ordered
    cases ordered
  | none =>
    exact (asks_run engine { p with inner := { p.inner with ranges } } h).imp
      fun _ result => ⟨result.1, fun _ => result.2⟩

/-- A parse of a whole text asks the engine for one parse at most, without ranges. No halted parse
stays behind, and no ranges are refused. -/
theorem asks_parse {source : Bytes}
    (h : ∀ language, P ⟨language, .ofBytes source, [], previous, p.inner.suspended, token,
      p.operationLimit⟩) :
    Asks P (fun result => (p.inner.suspended = none → result.2.inner.suspended = none) ∧
        ∀ index, result.1 ≠ .error (.invalidRanges index))
      (p.parse engine.recording source previous token) (p.parse engine source previous token) :=
  (p.asks_runIn engine h).imp fun _ result => ⟨result.1, result.2 rfl⟩

end SyntaxParser

end

end SyntaxForest
