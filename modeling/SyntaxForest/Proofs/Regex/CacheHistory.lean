import SyntaxForest.Regex.Cache

/-!
# What a cache of regular expressions shows

A pattern is answered from the cache only by an entry that was compiled from its very text. So an
entry may stand under any hash, be replaced by one of another pattern with the same hash, and go
when the cache is emptied: as long as each entry holds what its own pattern compiles to, the answer
is that of compiling the pattern now. No call puts any other entry into a cache, whatever the hash
and the capacity are.

## Main definitions

* `RegexCache.IsFaithful`: each entry stands under the hash of its pattern, with what that compiles
  to
* `RegexCache.Answers`: a use of a dialect's caches has one answer, whichever faithful one it goes
  through
* `RegexCache.Call`, `RegexCache.run`: calls, and a run of several

## Main results

* `RegexCache.getOrCompile_cases`: all that asking for a pattern can do to a cache
* `RegexCache.answers_getOrCompile`: a pattern is answered by what it compiles to
* `RegexCache.answers_run`: a run of calls is answered as without a cache
-/

namespace SyntaxForest

namespace RegexCache

variable {dialect : Regex.Dialect} {hash : Bytes → UInt64}

/-- Each entry is kept under the hash of its own pattern, and holds what that pattern
compiles to. -/
def IsFaithful (c : RegexCache dialect hash) : Prop :=
  ∀ e ∈ c.entries, e.key = hash e.pattern ∧ dialect.compile e.pattern = .ok e.regex

/-- A use of a cache gives this answer through every faithful cache of the dialect, for every hash,
and leaves a faithful cache. -/
def Answers (dialect : Regex.Dialect) {α : Type}
    (use : ∀ {hash : Bytes → UInt64}, RegexCache dialect hash → α × RegexCache dialect hash)
    (answer : α) : Prop :=
  ∀ {hash : Bytes → UInt64} (c : RegexCache dialect hash), c.IsFaithful →
    ∃ d : RegexCache dialect hash, use c = (answer, d) ∧ d.IsFaithful

theorem Answers.pure {α : Type} (answer : α) : Answers dialect (fun c => (answer, c)) answer :=
  fun c faithful => ⟨c, rfl, faithful⟩

/-! ## Single calls -/

section

variable {c : RegexCache dialect hash}

theorem isFaithful_empty (capacity : Nat) :
    ({ entries := [], capacity } : RegexCache dialect hash).IsFaithful := by
  intro e he
  cases he

/-- An entry that is faithful may take the place of any other. -/
theorem IsFaithful.insert (faithful : c.IsFaithful) {e : Entry} (key : e.key = hash e.pattern)
    (compiled : dialect.compile e.pattern = .ok e.regex) : (c.insert e).IsFaithful := by
  intro f hf
  rcases List.mem_cons.mp hf with rfl | kept
  · exact ⟨key, compiled⟩
  · exact faithful f (List.mem_filter.mp kept).1

theorem IsFaithful.setCapacity (faithful : c.IsFaithful) (capacity : Nat) :
    (c.setCapacity capacity).IsFaithful := by
  rw [RegexCache.setCapacity]
  split
  · exact isFaithful_empty capacity
  · exact faithful

theorem IsFaithful.store (faithful : c.IsFaithful) {regex : Regex} {pattern : Bytes}
    (compiled : dialect.compile pattern = .ok regex) : (c.store regex pattern).IsFaithful := by
  rw [RegexCache.store]
  split
  · exact faithful
  split
  · exact (isFaithful_empty c.capacity).insert rfl compiled
  · exact faithful.insert rfl compiled

variable {pattern : Bytes}

/-- An entry of this very text answers. -/
theorem getOrCompile_of_find? {e : Entry} (found : c.find? (hash pattern) = some e)
    (same : e.pattern = pattern) : c.getOrCompile pattern = (.ok e.regex, c) := by
  rw [getOrCompile, found]
  exact if_pos same

section

variable (unknown : ∀ e, c.find? (hash pattern) = some e → e.pattern ≠ pattern)

include unknown

/-- Without such an entry, a pattern that does not compile leaves the cache as it is. -/
theorem getOrCompile_of_error {reason : String}
    (failed : dialect.compile pattern = .error reason) :
    c.getOrCompile pattern = (.error reason, c) := by
  rw [getOrCompile, failed]
  dsimp only
  split
  next e found => exact if_neg (unknown e found)
  next => rfl

/-- Without such an entry, a pattern that compiles is kept. -/
theorem getOrCompile_of_ok {regex : Regex} (compiled : dialect.compile pattern = .ok regex) :
    c.getOrCompile pattern = (.ok regex, c.store regex pattern) := by
  rw [getOrCompile, compiled]
  dsimp only
  split
  next e found => exact if_neg (unknown e found)
  next => rfl

end

/-- **All that asking for a pattern can do.** An entry answers, or the pattern is compiled; only a
pattern that compiles changes the cache. -/
theorem getOrCompile_cases (c : RegexCache dialect hash) (pattern : Bytes) :
    (∃ e, c.find? (hash pattern) = some e ∧ e.pattern = pattern ∧
      c.getOrCompile pattern = (.ok e.regex, c)) ∨
    (∃ reason, dialect.compile pattern = .error reason ∧
      c.getOrCompile pattern = (.error reason, c)) ∨
    ∃ regex, dialect.compile pattern = .ok regex ∧
      c.getOrCompile pattern = (.ok regex, c.store regex pattern) := by
  by_cases known : ∃ e, c.find? (hash pattern) = some e ∧ e.pattern = pattern
  · obtain ⟨e, found, same⟩ := known
    exact .inl ⟨e, found, same, getOrCompile_of_find? found same⟩
  -- An entry of another pattern with this hash is passed over.
  have unknown : ∀ e, c.find? (hash pattern) = some e → e.pattern ≠ pattern :=
    fun e found same => known ⟨e, found, same⟩
  cases compiled : dialect.compile pattern with
  | error reason => exact .inr (.inl ⟨reason, rfl, getOrCompile_of_error unknown compiled⟩)
  | ok regex => exact .inr (.inr ⟨regex, rfl, getOrCompile_of_ok unknown compiled⟩)

end

/-- **A pattern is answered by what it compiles to**, or by the reason why it does not compile. -/
theorem answers_getOrCompile (pattern : Bytes) :
    Answers dialect (fun c => c.getOrCompile pattern) (dialect.compile pattern) := by
  intro hash c faithful
  dsimp only
  rcases c.getOrCompile_cases pattern with
    ⟨e, found, rfl, answered⟩ | ⟨reason, failed, answered⟩ | ⟨regex, compiled, answered⟩
  · obtain ⟨-, compiled⟩ := faithful e (List.mem_of_find?_eq_some found)
    rw [answered, compiled]
    exact ⟨c, rfl, faithful⟩
  · rw [answered, failed]
    exact ⟨c, rfl, faithful⟩
  · rw [answered, compiled]
    exact ⟨_, rfl, faithful.store compiled⟩

/-! ## Runs -/

/-- A call to a cache. -/
inductive Call where
  /-- Asks for the compiled form of a pattern. -/
  | getOrCompile (pattern : Bytes)
  /-- Sets the greatest number of entries. -/
  | setCapacity (capacity : Nat)
  /-- Removes all entries. -/
  | clear
  deriving DecidableEq, Repr

/-- The answer of a call, if it has one, and the cache behind it. -/
def call (c : RegexCache dialect hash) : Call →
    Option (Except String Regex) × RegexCache dialect hash
  | .getOrCompile pattern =>
    let (answer, c) := c.getOrCompile pattern
    (some answer, c)
  | .setCapacity capacity => (none, c.setCapacity capacity)
  | .clear => (none, c.clear)

/-- The answer of a call when there is no cache. -/
def Call.plain (dialect : Regex.Dialect) : Call → Option (Except String Regex)
  | .getOrCompile pattern => some (dialect.compile pattern)
  | .setCapacity _ | .clear => none

/-- The answers of calls in turn, and the cache behind them. -/
def run (c : RegexCache dialect hash) :
    List Call → List (Option (Except String Regex)) × RegexCache dialect hash
  | [] => ([], c)
  | first :: rest =>
    let (answer, c) := c.call first
    let (answers, c) := c.run rest
    (answer :: answers, c)

/-- A call is answered as without a cache. -/
theorem answers_call (request : Call) :
    Answers dialect (fun c => c.call request) (request.plain dialect) := by
  intro hash c faithful
  cases request with
  | getOrCompile pattern =>
    obtain ⟨d, answered, faithful'⟩ := answers_getOrCompile pattern c faithful
    dsimp only at answered ⊢
    exact ⟨d, by rw [call, answered, Call.plain], faithful'⟩
  | setCapacity capacity => exact ⟨_, rfl, faithful.setCapacity capacity⟩
  | clear => exact ⟨_, rfl, isFaithful_empty c.capacity⟩

/-- **A run of calls is answered as without a cache.** -/
theorem answers_run (calls : List Call) :
    Answers dialect (fun c => c.run calls) (calls.map (Call.plain dialect)) := by
  induction calls with
  | nil => exact Answers.pure []
  | cons first rest ih =>
    intro hash c faithful
    obtain ⟨d, answered, faithful'⟩ := answers_call first c faithful
    obtain ⟨d', answered', faithful''⟩ := ih d faithful'
    refine ⟨d', ?_, faithful''⟩
    show c.run (first :: rest) = _
    simp only [run, answered, answered', List.map_cons]

/-- The cache behind a run of calls that begins with an empty cache. -/
def afterCalls (dialect : Regex.Dialect) (hash : Bytes → UInt64) (capacity : Nat)
    (calls : List Call) : RegexCache dialect hash :=
  (run { entries := [], capacity } calls).2

theorem isFaithful_afterCalls (dialect : Regex.Dialect) (hash : Bytes → UInt64) (capacity : Nat)
    (calls : List Call) : (afterCalls dialect hash capacity calls).IsFaithful := by
  obtain ⟨d, ran, faithful⟩ :=
    answers_run calls (⟨[], capacity⟩ : RegexCache dialect hash) (isFaithful_empty capacity)
  have left : afterCalls dialect hash capacity calls = d := congrArg Prod.snd ran
  rw [left]
  exact faithful

end RegexCache

end SyntaxForest
