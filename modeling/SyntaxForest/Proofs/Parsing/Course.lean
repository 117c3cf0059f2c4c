import SyntaxForest.Proofs.Parsing.Agreement

/-!
# The course of a parse

While a parse is under way, the engine asks from time to time whether to go on, and anyone who holds
a clone of the caller's flag may set it: between two polls, or between the last poll and the moment
when the caller looks at the answer. The flag stays set once it is. The engine stops at a poll that
is answered with a halt, and only says that there is no tree; the parser then finds out why, from
what the polls saw and from the flag as it is by then.

## Main definitions

* `ParseEvent`: a poll, or the setting of the flag
* `flagAfter`, `pollsOf`: the flag behind events in their order, and what their polls see
* `ParseAnswer.Follows`: an answer of the engine after such a course
* `IsStopped`: a poll saw the flag set or the time spent

## Main results

* `mem_pollsOf`: what a poll sees is what came before it
* `haltError_of_follows`: why a stopped parse was stopped
* `SyntaxParser.outcome_of_course`: what a parse gives, whatever the course
-/

namespace SyntaxForest

variable {σ : Type}

/-! ## Courses -/

/-- What happens while a parse is under way. -/
inductive ParseEvent where
  /-- Someone sets the flag. -/
  | cancel
  /-- The engine asks whether to go on, so much time after the parse began. -/
  | poll (elapsed : Duration)
  deriving DecidableEq, Repr

/-- The flag behind events. No event takes it back. -/
def flagAfter (isSet : Bool) : List ParseEvent → Bool
  | [] => isSet
  | .cancel :: rest => flagAfter true rest
  | .poll _ :: rest => flagAfter isSet rest

/-- What the polls among the events see. -/
def pollsOf (isSet : Bool) : List ParseEvent → List Poll
  | [] => []
  | .cancel :: rest => pollsOf true rest
  | .poll elapsed :: rest => ⟨isSet, elapsed⟩ :: pollsOf isSet rest

def flagAtStart (token : Option CancellationToken) : Bool := token.any (·.isCancelled)

/-- The answer of the engine to a parse that took this course until the caller looks at the answer.
There is no tree exactly when a poll was answered with a halt. -/
structure ParseAnswer.Follows (answer : ParseAnswer) (token : Option CancellationToken)
    (limit : Option Duration) (course : List ParseEvent) : Prop where
  polls : answer.polls = pollsOf (flagAtStart token) course
  /-- The caller sees the flag as it is by then. -/
  after : answer.isCancelledAfter = flagAfter (flagAtStart token) course
  /-- The engine stops when it is told to, and not otherwise. -/
  halted : answer.tree = none ↔ ∃ poll ∈ answer.polls, poll.halts token limit

/-- Some poll came when a flag was given and set, or a limit was given and the time was spent. -/
def IsStopped (token : Option CancellationToken) (limit : Option Duration)
    (course : List ParseEvent) : Prop :=
  ∃ before elapsed rest, course = before ++ .poll elapsed :: rest ∧
    (token.isSome ∧ flagAfter (flagAtStart token) before ∨
      ∃ allowed, limit = some allowed ∧ allowed ≤ elapsed)

/-- A flag was given, and it is set when the caller looks at the answer. -/
def IsCancelled (token : Option CancellationToken) (course : List ParseEvent) : Prop :=
  token.isSome ∧ flagAfter (flagAtStart token) course

/-! ## The flag and the polls -/

theorem flagAfter_append (isSet : Bool) (before rest : List ParseEvent) :
    flagAfter isSet (before ++ rest) = flagAfter (flagAfter isSet before) rest := by
  induction before generalizing isSet with
  | nil => rfl
  | cons event before ih =>
    cases event with
    | cancel => exact ih true
    | poll now => exact ih isSet

/-- **The flag stays set.** -/
theorem flagAfter_of_isSet {isSet : Bool} (h : isSet) (course : List ParseEvent) :
    flagAfter isSet course := by
  induction course generalizing isSet with
  | nil => exact h
  | cons event rest ih =>
    cases event with
    | cancel => exact ih rfl
    | poll now => exact ih h

theorem pollsOf_append (isSet : Bool) (before rest : List ParseEvent) :
    pollsOf isSet (before ++ rest) =
      pollsOf isSet before ++ pollsOf (flagAfter isSet before) rest := by
  induction before generalizing isSet with
  | nil => rfl
  | cons event before ih =>
    cases event with
    | cancel => exact ih true
    | poll now => exact congrArg (_ :: ·) (ih isSet)

/-- **A poll sees** the flag as the events before it left it, and its own time. -/
theorem mem_pollsOf {isSet : Bool} {course : List ParseEvent} {poll : Poll} :
    poll ∈ pollsOf isSet course ↔ ∃ before elapsed rest,
      course = before ++ .poll elapsed :: rest ∧ poll = ⟨flagAfter isSet before, elapsed⟩ := by
  constructor
  · intro member
    induction course generalizing isSet with
    | nil => cases member
    | cons event rest ih =>
      cases event with
      | cancel =>
        obtain ⟨before, elapsed, later, rfl, rfl⟩ := ih member
        exact ⟨.cancel :: before, elapsed, later, rfl, rfl⟩
      | poll elapsed =>
        rcases List.mem_cons.mp member with rfl | member
        · exact ⟨[], elapsed, rest, rfl, rfl⟩
        · obtain ⟨before, elapsed', later, rfl, rfl⟩ := ih member
          exact ⟨.poll elapsed :: before, elapsed', later, rfl, rfl⟩
  · rintro ⟨before, elapsed, rest, rfl, rfl⟩
    rw [pollsOf_append]
    exact List.mem_append_right _ List.mem_cons_self

theorem halts_iff {token : Option CancellationToken} {limit : Option Duration} {isSet : Bool}
    {elapsed : Duration} :
    (⟨isSet, elapsed⟩ : Poll).halts token limit ↔
      token.isSome ∧ isSet ∨ ∃ allowed, limit = some allowed ∧ allowed ≤ elapsed := by
  cases limit with
  | none => simp [Poll.halts]
  | some allowed => simp [Poll.halts]

/-! ## Answers -/

section

variable {answer : ParseAnswer} {token : Option CancellationToken} {limit : Option Duration}
  {course : List ParseEvent} (follows : answer.Follows token limit course)

include follows

/-- The engine has no tree exactly when a poll saw the flag set or the time spent. -/
theorem ParseAnswer.Follows.tree_eq_none_iff :
    answer.tree = none ↔ IsStopped token limit course := by
  rw [follows.halted, follows.polls]
  constructor
  · rintro ⟨poll, member, halts⟩
    obtain ⟨before, elapsed, rest, rfl, rfl⟩ := mem_pollsOf.mp member
    exact ⟨before, elapsed, rest, rfl, halts_iff.mp halts⟩
  · rintro ⟨before, elapsed, rest, rfl, stopped⟩
    exact ⟨_, mem_pollsOf.mpr ⟨before, elapsed, rest, rfl, rfl⟩, halts_iff.mpr stopped⟩

/-- A flag that a poll saw set is set when the caller looks at the answer. -/
theorem ParseAnswer.Follows.flagAfter_of_mem {poll : Poll} (member : poll ∈ answer.polls)
    (saw : poll.isCancelled) : flagAfter (flagAtStart token) course := by
  rw [follows.polls] at member
  obtain ⟨before, elapsed, rest, rfl, rfl⟩ := mem_pollsOf.mp member
  rw [flagAfter_append]
  exact flagAfter_of_isSet saw _

/-- **Why a stopped parse was stopped.** A given flag that is set by the time counts first, whether
a poll saw it or not. Otherwise there was a limit, and the time was spent. -/
theorem haltError_of_follows (stopped : IsStopped token limit course) :
    IsCancelled token course ∧ haltError token limit answer = .cancelled ∨
    ¬ IsCancelled token course ∧ ∃ allowed, limit = some allowed ∧
      haltError token limit answer = .operationLimitExceeded allowed := by
  have saw : (answer.polls.find? (·.halts token limit)).any (·.isCancelled) →
      flagAfter (flagAtStart token) course := by
    cases found : answer.polls.find? (·.halts token limit) with
    | none => exact nofun
    | some poll => exact follows.flagAfter_of_mem (List.mem_of_find?_eq_some found)
  by_cases cancelled : IsCancelled token course
  · refine .inl ⟨cancelled, if_pos ?_⟩
    rw [follows.after, cancelled.1, cancelled.2, Bool.or_true, Bool.and_true]
  · refine .inr ⟨cancelled, ?_⟩
    -- The flag cannot be what the stopping poll saw, since then it would be set by now.
    obtain ⟨before, elapsed, rest, rfl, ⟨given, set⟩ | ⟨allowed, rfl, -⟩⟩ := stopped
    · exact absurd ⟨given, (flagAfter_append _ before _).symm ▸ flagAfter_of_isSet set _⟩ cancelled
    · refine ⟨allowed, rfl, if_neg fun h => cancelled ?_⟩
      obtain ⟨given, seen⟩ := Bool.and_eq_true_iff.mp h
      refine ⟨given, ?_⟩
      rcases Bool.or_eq_true_iff.mp seen with h | h
      · exact saw h
      · exact follows.after ▸ h

end

namespace SyntaxParser

variable {engine : Engine σ}

/-- Ranges out of order are refused before anything else, and the engine is not asked. -/
theorem run_parseRanges_of_not_ordered (p : SyntaxParser) (source : Bytes)
    (previous : Option SyntaxTree) {ranges : List Range} (token : Option CancellationToken) (s : σ)
    (h : ¬ Range.Ordered ranges) :
    ∃ index, (p.parseRanges engine source previous ranges token).run s =
      ((.error (.invalidRanges index), p), s) := by
  obtain ⟨index, disorder⟩ := Option.ne_none_iff_exists'.mp h
  refine ⟨index, ?_⟩
  rw [parseRanges, runIn, EngineParser.setRanges, disorder]
  rfl

/-- **The outcome of a parse** by a parser with a grammar, whatever polls the engine made, whenever
the flag was set and whatever the time limit is. There is a tree exactly when no poll saw the flag
set or the time spent, also when the flag was set after the last poll. A parse that was stopped
fails as cancelled when the flag is set by the time that its answer is looked at; and otherwise
there was a limit, and the parse fails as one that exceeded it. Ranges out of order are refused
whether or not there is a grammar, and only ranges in order let the lack of one show. -/
theorem outcome_of_course {p : SyntaxParser} {grammar : Grammar} {language : Language}
    (hasGrammar : p.grammar = some grammar) (hasLanguage : p.inner.language = some language)
    (read : Reader) (previous : Option SyntaxTree) (token : Option CancellationToken) (s : σ)
    (course : List ParseEvent)
    (follows : ((engine.parse ⟨language, read, p.inner.ranges, previous, p.inner.suspended, token,
      p.operationLimit⟩).run s).1.Follows token p.operationLimit course) :
    let outcome := ((p.run engine read previous token).run s).1.1
    ((∃ tree, outcome = .ok tree) ↔ ¬ IsStopped token p.operationLimit course) ∧
    (IsStopped token p.operationLimit course →
      IsCancelled token course ∧ outcome = .error .cancelled ∨
      ¬ IsCancelled token course ∧ ∃ allowed, p.operationLimit = some allowed ∧
        outcome = .error (.operationLimitExceeded allowed)) ∧
    ∀ (q : SyntaxParser) (source : Bytes) (ranges : List Range),
      (¬ Range.Ordered ranges → ∃ index,
        (q.parseRanges engine source previous ranges token).run s =
          ((.error (.invalidRanges index), q), s)) ∧
      (Range.Ordered ranges → q.grammar = none →
        ((q.parseRanges engine source previous ranges token).run s).1.1 = .error .noGrammar) := by
  intro outcome
  have shown : outcome = ParseAnswer.outcome token p.operationLimit ((engine.parse ⟨language, read,
      p.inner.ranges, previous, p.inner.suspended, token, p.operationLimit⟩).run s).1 := by
    show ((p.run engine read previous token).run s).1.1 = _
    rw [p.run_eq_map read previous hasGrammar hasLanguage]
    rfl
  generalize ((engine.parse _).run s).1 = answer at follows shown
  refine ⟨?_, fun stopped => ?_, fun q source ranges =>
    ⟨q.run_parseRanges_of_not_ordered source previous token s, fun ordered lacks => ?_⟩⟩
  · rw [← follows.tree_eq_none_iff, shown, ParseAnswer.outcome]
    cases answer.tree with
    | none => simp
    | some tree => simp
  · have noTree := follows.tree_eq_none_iff.mpr stopped
    rw [shown, ParseAnswer.outcome, noTree]
    simpa only [Except.error.injEq] using haltError_of_follows follows stopped
  · have inOrder : firstDisorder? 0 0 ranges = none := ordered
    rw [parseRanges, runIn, EngineParser.setRanges, inOrder]
    show ((run _ engine _ previous token).run s).1.1 = _
    rw [run, lacks]
    rfl

/-- An engine that loads every language, and whose parses all take one course. -/
def courseEngine (course : List ParseEvent) (tree : SyntaxTree) : Engine Unit :=
  { Engine.absent with
    parse := fun request =>
      let polls := pollsOf (flagAtStart request.token) course
      pure ⟨if polls.any (·.halts request.token request.limit) then none else some tree, polls,
        flagAfter (flagAtStart request.token) course⟩ }

theorem follows_courseEngine (course : List ParseEvent) (tree : SyntaxTree)
    (request : ParseRequest) :
    (((courseEngine course tree).parse request).run ()).1.Follows request.token request.limit
      course := by
  refine ⟨rfl, rfl, ?_⟩
  show (if _ then none else some tree) = none ↔ ∃ poll ∈ pollsOf _ course, _
  rw [← List.any_eq_true, ite_eq_left_iff]
  simp

/-- The time is spent at the second poll. Then the parse fails as cancelled if the flag is set
before the answer is looked at, and as one that exceeded its limit if it is not. -/
theorem outcome_of_course_of_late_cancel :
    ∃ (engine engine' : Engine Unit) (p : SyntaxParser) (limit : Duration),
      p.grammar.isSome ∧ p.operationLimit = some limit ∧ limit = .ofMillis 1 ∧
      IsStopped (some ⟨false⟩) (some limit) [.poll ⟨2⟩, .poll ⟨1000000⟩, .cancel] ∧
      ((p.run engine (.ofBytes []) none (some ⟨false⟩)).run ()).1.1 = .error .cancelled ∧
      IsStopped (some ⟨false⟩) (some limit) [.poll ⟨2⟩, .poll ⟨1000000⟩] ∧
      ((p.run engine' (.ofBytes []) none (some ⟨false⟩)).run ()).1.1 =
        .error (.operationLimitExceeded limit) := by
  let limit : Duration := .ofMillis 1
  have stopped (late : List ParseEvent) :
      IsStopped (some ⟨false⟩) (some limit) ([.poll ⟨2⟩, .poll ⟨1000000⟩] ++ late) :=
    ⟨[.poll ⟨2⟩], ⟨1000000⟩, late, rfl, .inr ⟨limit, rfl, by decide⟩⟩
  let plain : Grammar := ⟨"plain", ⟨"plain"⟩, []⟩
  let p : SyntaxParser := ⟨{ language := some plain.language }, some plain, some limit⟩
  have hasGrammar : p.grammar = some plain := rfl
  have hasLanguage : p.inner.language = some plain.language := rfl
  let engine (late : List ParseEvent) : Engine Unit :=
    courseEngine ([.poll ⟨2⟩, .poll ⟨1000000⟩] ++ late) ⟨default, "", false⟩
  have outcome (late : List ParseEvent) :=
    (outcome_of_course hasGrammar hasLanguage (.ofBytes []) none (some ⟨false⟩) ()
      ([.poll ⟨2⟩, .poll ⟨1000000⟩] ++ late) (follows_courseEngine _ ⟨default, "", false⟩ _)).2.1
  refine ⟨engine [.cancel], engine [], p, limit, rfl, rfl, rfl, stopped [.cancel], ?_,
    stopped [], ?_⟩
  · obtain ⟨-, cancelled⟩ | ⟨uncancelled, -⟩ := outcome [.cancel] (stopped [.cancel])
    · exact cancelled
    · exact absurd ⟨rfl, rfl⟩ uncancelled
  · obtain ⟨⟨-, set⟩, -⟩ | ⟨-, limit, same, exceeded⟩ := outcome [] (stopped [])
    · cases set
    · cases same
      exact exceeded

end SyntaxParser

end SyntaxForest
