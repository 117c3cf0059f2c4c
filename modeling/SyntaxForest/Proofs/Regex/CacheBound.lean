import Mathlib.Data.List.Nodup
import SyntaxForest.Proofs.Regex.CacheHistory
import SyntaxForest.Regex.Parser

/-!
# The bound of a cache of regular expressions

A cache never holds more entries than its capacity, which is the one set last. A pattern goes in
only if there is room for any, and a full cache is emptied for it; a pattern with the hash of
another one takes its place. So no two entries stand under one hash, and a pattern that some entry
holds is found under its own hash: what was compiled just now is answered without being compiled
again, as long as the capacity is not zero.

## Main definitions

* `RegexCache.inForce`: the capacity behind calls
* `RegexCache.IsBounded`: a cache within its capacity, with one entry a hash
* `RegexCache.Holds`, `RegexCache.Hits`: some entry holds a pattern, and it is the one that answers

## Main results

* `RegexCache.isBounded_call`, `RegexCache.isBounded_afterCalls`: calls keep a cache within its
  bound
* `RegexCache.IsBounded.hits_iff`: a pattern that the cache holds is answered from it
* `RegexCache.cache_keeps_capacity`: the size and the entries of a cache along any run
-/

namespace SyntaxForest

namespace RegexCache

variable {dialect : Regex.Dialect} {hash : Bytes → UInt64}

/-! ## The capacity in force -/

/-- The capacity that a call sets. -/
def Call.capacity? : Call → Option Nat
  | .setCapacity capacity => some capacity
  | .getOrCompile _ | .clear => none

/-- The capacity behind calls: the one set last, and the one before them if none is set. -/
def inForce (capacity : Nat) (calls : List Call) : Nat :=
  (calls.filterMap Call.capacity?).getLast?.getD capacity

theorem inForce_cons (capacity : Nat) (first : Call) (rest : List Call) :
    inForce capacity (first :: rest) = inForce (first.capacity?.getD capacity) rest := by
  cases h : first.capacity? with
  | none => simp only [inForce, List.filterMap_cons_none h, Option.getD_none]
  | some n =>
    simp only [inForce, List.filterMap_cons_some h, List.getLast?_cons, Option.getD_some]

/-! ## One call -/

/-- The cache is within its capacity, and no two entries stand under one hash. -/
structure IsBounded (c : RegexCache dialect hash) : Prop where
  size_le : c.size ≤ c.capacity
  nodup : (c.entries.map (·.key)).Nodup

/-- Some entry holds the pattern. -/
def Holds (c : RegexCache dialect hash) (pattern : Bytes) : Prop :=
  ∃ e ∈ c.entries, e.pattern = pattern

/-- The entry under the pattern's hash was compiled from this very pattern. -/
def Hits (c : RegexCache dialect hash) (pattern : Bytes) : Prop :=
  ∃ e, c.find? (hash pattern) = some e ∧ e.pattern = pattern

section

variable {c : RegexCache dialect hash} {pattern : Bytes}

theorem capacity_store (c : RegexCache dialect hash) (regex : Regex) (pattern : Bytes) :
    (c.store regex pattern).capacity = c.capacity := by
  unfold store
  split_ifs <;> rfl

theorem capacity_setCapacity (c : RegexCache dialect hash) (capacity : Nat) :
    (c.setCapacity capacity).capacity = capacity := by
  unfold setCapacity
  split_ifs <;> rfl

theorem size_setCapacity_le (c : RegexCache dialect hash) (capacity : Nat) :
    (c.setCapacity capacity).size ≤ capacity := by
  rw [setCapacity]
  split
  · exact Nat.zero_le capacity
  next fits => exact Nat.le_of_not_lt fits

/-- A capacity that is set again keeps the entries, which fit by now. -/
theorem setCapacity_setCapacity (c : RegexCache dialect hash) (capacity : Nat) :
    (c.setCapacity capacity).setCapacity capacity = c.setCapacity capacity := by
  have same := c.capacity_setCapacity capacity
  rw [setCapacity, if_neg (Nat.not_lt.mpr (c.size_setCapacity_le capacity))]
  generalize c.setCapacity capacity = sized at same ⊢
  subst same
  rfl

theorem capacity_call (c : RegexCache dialect hash) (request : Call) :
    (c.call request).2.capacity = request.capacity?.getD c.capacity := by
  cases request with
  | getOrCompile pattern =>
    show (c.getOrCompile pattern).2.capacity = c.capacity
    rcases c.getOrCompile_cases pattern with
      ⟨e, -, -, same⟩ | ⟨reason, -, same⟩ | ⟨regex, -, stored⟩
    · rw [same]
    · rw [same]
    · rw [stored, capacity_store]
  | setCapacity capacity => exact c.capacity_setCapacity capacity
  | clear => rfl

theorem isBounded_empty (capacity : Nat) :
    ({ entries := [], capacity } : RegexCache dialect hash).IsBounded :=
  ⟨Nat.zero_le capacity, List.nodup_nil⟩

/-- Where there is room for one more entry, any may be added: it takes the place of the one with its
hash. -/
theorem IsBounded.insert (h : c.IsBounded) (room : c.size < c.capacity) (e : Entry) :
    (c.insert e).IsBounded := by
  have others : (c.entries.filter (·.key ≠ e.key)).Sublist c.entries := List.filter_sublist
  refine ⟨?_, ?_⟩
  · calc (c.insert e).size = (c.entries.filter (·.key ≠ e.key)).length + 1 := rfl
      _ ≤ c.size + 1 := Nat.succ_le_succ others.length_le
      _ ≤ c.capacity := room
  · refine List.nodup_cons.mpr ⟨fun again => ?_, h.nodup.sublist (others.map _)⟩
    obtain ⟨f, hf, same⟩ := List.mem_map.mp again
    simpa [same] using (List.mem_filter.mp hf).2

theorem IsBounded.store (h : c.IsBounded) (regex : Regex) (pattern : Bytes) :
    (c.store regex pattern).IsBounded := by
  unfold RegexCache.store
  split_ifs with zero full
  · exact h
  -- A full cache is emptied, which leaves room as the capacity is not zero.
  · exact (isBounded_empty c.capacity).insert (Nat.pos_of_ne_zero zero) _
  · exact h.insert (Nat.lt_of_not_le full) _

theorem IsBounded.setCapacity (h : c.IsBounded) (capacity : Nat) :
    (c.setCapacity capacity).IsBounded := by
  unfold RegexCache.setCapacity
  split_ifs with less
  · exact isBounded_empty capacity
  · exact ⟨Nat.le_of_not_lt less, h.nodup⟩

/-- **Every call keeps a cache within its capacity.** -/
theorem isBounded_call (h : c.IsBounded) (request : Call) : (c.call request).2.IsBounded := by
  cases request with
  | getOrCompile pattern =>
    show (c.getOrCompile pattern).2.IsBounded
    rcases c.getOrCompile_cases pattern with
      ⟨e, -, -, same⟩ | ⟨reason, -, same⟩ | ⟨regex, -, stored⟩
    · rwa [same]
    · rwa [same]
    · rw [stored]
      exact h.store regex pattern
  | setCapacity capacity => exact h.setCapacity capacity
  | clear => exact isBounded_empty c.capacity

/-! ## Hits -/

/-- A pattern that the cache holds is found under its hash. -/
theorem IsBounded.hits_iff (h : c.IsBounded) (faithful : c.IsFaithful) :
    c.Hits pattern ↔ c.Holds pattern := by
  constructor
  · rintro ⟨e, found, same⟩
    exact ⟨e, List.mem_of_find?_eq_some found, same⟩
  · rintro ⟨e, he, rfl⟩
    have key : e.key = hash e.pattern := (faithful e he).1
    -- Some entry is found under the hash, and there is only one.
    obtain ⟨f, found⟩ : ∃ f, c.find? (hash e.pattern) = some f :=
      Option.isSome_iff_exists.mp (List.find?_isSome.mpr ⟨e, he, by simp [key]⟩)
    have sameKey : f.key = e.key := by
      rw [key]
      simpa using List.find?_some found
    obtain rfl : f = e :=
      List.inj_on_of_nodup_map h.nodup (List.mem_of_find?_eq_some found) he sameKey
    exact ⟨f, found, rfl⟩

/-- A pattern that has just been stored is held. -/
theorem holds_store (regex : Regex) (pattern : Bytes) (positive : 0 < c.capacity) :
    (c.store regex pattern).Holds pattern := by
  unfold store
  split_ifs with zero full
  · omega
  · exact ⟨_, List.mem_cons_self, rfl⟩
  · exact ⟨_, List.mem_cons_self, rfl⟩

theorem holds_getOrCompile {regex : Regex} (compiled : dialect.compile pattern = .ok regex)
    (positive : 0 < c.capacity) : (c.getOrCompile pattern).2.Holds pattern := by
  rcases c.getOrCompile_cases pattern with
    ⟨e, found, same, answered⟩ | ⟨reason, failed, -⟩ | ⟨regex', -, stored⟩
  · rw [answered]
    exact ⟨e, List.mem_of_find?_eq_some found, same⟩
  · cases compiled.symm.trans failed
  · rw [stored]
    exact holds_store regex' pattern positive

/-- A pattern that was compiled just now is answered from the cache. -/
theorem IsBounded.getOrCompile_again (h : c.IsBounded) (faithful : c.IsFaithful) {regex : Regex}
    (compiled : dialect.compile pattern = .ok regex) (positive : 0 < c.capacity) :
    (c.getOrCompile pattern).2.Hits pattern ∧
      (c.getOrCompile pattern).2.getOrCompile pattern =
        (.ok regex, (c.getOrCompile pattern).2) := by
  obtain ⟨d, answered, faithful'⟩ := answers_getOrCompile pattern c faithful
  have bounded : (c.getOrCompile pattern).2.IsBounded := isBounded_call h (.getOrCompile pattern)
  have holds := holds_getOrCompile compiled positive
  dsimp only at answered
  rw [answered] at bounded holds ⊢
  obtain ⟨e, found, rfl⟩ := (bounded.hits_iff faithful').mpr holds
  -- The entry that answers holds what its pattern compiles to.
  have same : dialect.compile e.pattern = .ok e.regex :=
    (faithful' e (List.mem_of_find?_eq_some found)).2
  obtain rfl : regex = e.regex := Except.ok.inj (compiled.symm.trans same)
  exact ⟨⟨e, found, rfl⟩, getOrCompile_of_find? found rfl⟩

/-- A pattern that does not compile changes nothing, and nor does one that the cache holds. -/
theorem entries_getOrCompile (h : c.IsBounded) (faithful : c.IsFaithful)
    (settled : c.Holds pattern ∨ ∃ reason, dialect.compile pattern = .error reason) :
    (c.getOrCompile pattern).2.entries = c.entries := by
  rcases settled with holds | ⟨reason, failed⟩
  · obtain ⟨e, found, same⟩ := (h.hits_iff faithful).mpr holds
    rw [getOrCompile_of_find? found same]
  · rcases c.getOrCompile_cases pattern with
      ⟨e, -, -, same⟩ | ⟨reason', -, same⟩ | ⟨regex, compiled, -⟩
    · rw [same]
    · rw [same]
    · cases failed.symm.trans compiled

end

/-! ## Runs -/

theorem capacity_run (c : RegexCache dialect hash) (calls : List Call) :
    (c.run calls).2.capacity = inForce c.capacity calls := by
  induction calls generalizing c with
  | nil => rfl
  | cons first rest ih =>
    show ((c.call first).2.run rest).2.capacity = _
    rw [ih, capacity_call, inForce_cons]

theorem isBounded_run {c : RegexCache dialect hash} (h : c.IsBounded) (calls : List Call) :
    (c.run calls).2.IsBounded := by
  induction calls generalizing c with
  | nil => exact h
  | cons first rest ih => exact ih (isBounded_call h first)

theorem isBounded_afterCalls (dialect : Regex.Dialect) (hash : Bytes → UInt64) (capacity : Nat)
    (calls : List Call) :
    (afterCalls dialect hash capacity calls).IsBounded :=
  isBounded_run (isBounded_empty capacity) calls

theorem capacity_afterCalls (dialect : Regex.Dialect) (hash : Bytes → UInt64) (capacity : Nat)
    (calls : List Call) :
    (afterCalls dialect hash capacity calls).capacity = inForce capacity calls :=
  capacity_run _ calls

/-- **A cache keeps within its capacity and keeps what it is asked for.** Along any run of calls
from an empty cache, in any dialect and under any hash, there are never more entries than the
capacity set last, so none while it is zero. Asking for a pattern changes no entry if the pattern
does not compile or is held; if it compiles and the capacity is not zero, the pattern is held, and
asking for it again is answered from the cache and changes nothing. Setting the capacity keeps all
entries if they fit, and none if they do not. -/
theorem cache_keeps_capacity (dialect : Regex.Dialect) (hash : Bytes → UInt64) (calls : List Call) :
    let c := afterCalls dialect hash defaultCapacity calls
    let capacity := inForce defaultCapacity calls
    (c.capacity = capacity ∧ c.size ≤ capacity ∧ (capacity = 0 → c.size = 0)) ∧
    (∀ pattern reason, dialect.compile pattern = .error reason →
      (c.getOrCompile pattern).2.entries = c.entries) ∧
    (∀ pattern, c.Holds pattern → (c.getOrCompile pattern).2.entries = c.entries) ∧
    (∀ pattern regex, dialect.compile pattern = .ok regex → 0 < capacity →
      (c.getOrCompile pattern).2.Holds pattern ∧ (c.getOrCompile pattern).2.Hits pattern ∧
      (c.getOrCompile pattern).2.getOrCompile pattern =
        (.ok regex, (c.getOrCompile pattern).2)) ∧
    (∀ n ≥ c.size, (c.setCapacity n).entries = c.entries) ∧
    ∀ n < c.size, (c.setCapacity n).entries = [] := by
  intro c capacity
  have bounded : c.IsBounded := isBounded_afterCalls dialect hash defaultCapacity calls
  have faithful : c.IsFaithful := isFaithful_afterCalls dialect hash defaultCapacity calls
  have inForce : c.capacity = capacity := capacity_afterCalls dialect hash defaultCapacity calls
  have size : c.size ≤ capacity := inForce ▸ bounded.size_le
  refine ⟨⟨inForce, size, fun zero => Nat.le_zero.mp (zero ▸ size)⟩, ?_, ?_, ?_, ?_, ?_⟩
  · intro pattern reason failed
    exact entries_getOrCompile bounded faithful (.inr ⟨reason, failed⟩)
  · intro pattern holds
    exact entries_getOrCompile bounded faithful (.inl holds)
  · intro pattern regex compiled positive
    rw [← inForce] at positive
    exact ⟨holds_getOrCompile compiled positive,
      bounded.getOrCompile_again faithful compiled positive⟩
  · intro n fits
    rw [setCapacity, if_neg (Nat.not_lt.mpr fits)]
  · intro n less
    rw [setCapacity, if_pos less]
    rfl

/-- A pattern takes the place of one with its hash, the capacity shrinks to the two that are left,
and a third one empties the cache. -/
theorem cache_keeps_capacity_when_full :
    let c := afterCalls .standard (·.length.toUInt64) defaultCapacity
      [.getOrCompile (Bytes.ofText "a"), .getOrCompile (Bytes.ofText "b"),
        .getOrCompile (Bytes.ofText "cd"), .setCapacity 2]
    c.entries.map (·.pattern) = [Bytes.ofText "cd", Bytes.ofText "b"] ∧ c.size ≤ 2 ∧
      (c.getOrCompile (Bytes.ofText "(")).2.entries = c.entries ∧
      (c.getOrCompile (Bytes.ofText "b")).2.entries = c.entries ∧
      (c.getOrCompile (Bytes.ofText "efg")).2.Hits (Bytes.ofText "efg") ∧
      (c.getOrCompile (Bytes.ofText "efg")).2.size = 1 ∧
      (c.setCapacity 2).entries = c.entries ∧ (c.setCapacity 1).entries = [] := by
  intro c
  obtain ⟨⟨-, size, -⟩, failing, held, compiling, fitting, shrinking⟩ :=
    cache_keeps_capacity .standard (·.length.toUInt64) [.getOrCompile (Bytes.ofText "a"),
      .getOrCompile (Bytes.ofText "b"), .getOrCompile (Bytes.ofText "cd"), .setCapacity 2]
  have patterns : c.entries.map (·.pattern) = [Bytes.ofText "cd", Bytes.ofText "b"] := by
    decide +kernel
  have two : c.size = 2 := by simpa [RegexCache.size] using congrArg List.length patterns
  have holds : c.Holds (Bytes.ofText "b") := by
    have member : Bytes.ofText "b" ∈ c.entries.map (·.pattern) := by simp [patterns]
    simpa [Holds] using member
  have more : 1 < c.size := by omega
  refine ⟨patterns, size, ?_, held _ holds, ?_, by decide +kernel, fitting 2 size,
    shrinking 1 more⟩
  · cases compiled : Regex.Dialect.standard.compile (Bytes.ofText "(") with
    | error reason => exact failing _ reason compiled
    | ok regex =>
      have fails : (Regex.Dialect.standard.compile (Bytes.ofText "(")).isOk = false := by
        decide +kernel
      rw [compiled] at fails
      cases fails
  · cases compiled : Regex.Dialect.standard.compile (Bytes.ofText "efg") with
    | error reason =>
      have succeeds : (Regex.Dialect.standard.compile (Bytes.ofText "efg")).isOk = true := by
        decide +kernel
      rw [compiled] at succeeds
      cases succeeds
    | ok regex => exact (compiling _ regex compiled Nat.two_pos).2.1

end RegexCache

end SyntaxForest
