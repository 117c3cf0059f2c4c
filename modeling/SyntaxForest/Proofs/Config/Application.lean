import SyntaxForest.Proofs.Config.Mappings
import SyntaxForest.Proofs.Grammar.Registration
import SyntaxForest.Proofs.Regex.CacheBound

/-!
# The effect of a configuration

A configuration is applied to a registry and a cache. Its entries are mapped in the order of their
extensions until one names a grammar that is not registered: what was mapped before stays, and the
cache is left alone. Otherwise the cache gets its capacity. Mapping never changes which grammars are
registered, so the registry before it decides how it ends, and a configuration that was applied can
be applied again, with no further effect.

## Main definitions

* `Config.mapping`: an entry as an operation on a registry
* `Config.claimAll`: a registry behind entries that name registered grammars

## Main results

* `Config.mapExtensions_append`: entries that name registered grammars are mapped one by one
* `Config.claimAll_claimAll`: mapping the same entries again changes nothing
* `Config.apply_of_knows`, `Config.exists_apply_eq_error`: the two outcomes
* `Config.apply_outcome`: when a configuration is applied, and what it changes
-/

namespace SyntaxForest

namespace Registry

variable {r : Registry} {name e : String}

theorem mapExtension_of_knows (known : r.Knows name) :
    r.mapExtension e name = .ok (r.claim name e) := by
  obtain ⟨g, found⟩ := knows_iff.mp known
  rw [mapExtension, get_eq_ok_iff.mpr found]

theorem mapExtension_of_not_knows (unknown : ¬ r.Knows name) :
    r.mapExtension e name = .error (.unknown name (r.closestName? name)) := by
  rw [mapExtension, get_of_not_knows unknown]

end Registry

namespace Config

open Registry

variable {r r' : Registry} {entries before after : List (String × String)}
  {entry : String × String}

/-! ## Entries as operations -/

/-- An entry as an operation: its extension goes to the grammar that it names. -/
def mapping (entry : String × String) : Operation := .mapExtension entry.1 entry.2

/-- The registry behind entries, when all the grammars that they name are registered. -/
def claimAll (entries : List (String × String)) (r : Registry) : Registry :=
  entries.foldl (fun r entry => r.claim entry.2 entry.1) r

theorem grammars_claimAll (entries : List (String × String)) (r : Registry) :
    (claimAll entries r).grammars = r.grammars := by
  induction entries generalizing r with
  | nil => rfl
  | cons entry rest ih => exact ih (r.claim entry.2 entry.1)

/-- Operations that map entries to registered grammars all succeed. -/
theorem registry_foldl_mapping {h : History}
    (known : ∀ entry ∈ entries, h.registry.Knows entry.2) :
    ((entries.map mapping).foldl History.step h).registry = claimAll entries h.registry := by
  induction entries generalizing h with
  | nil => rfl
  | cons entry rest ih =>
    obtain ⟨first, later⟩ := List.forall_mem_cons.mp known
    have succeeds : h.registry.attempt (mapping entry) = .ok (h.registry.claim entry.2 entry.1) :=
      mapExtension_of_knows first
    rw [List.map_cons, List.foldl_cons, History.step, succeeds]
    -- A claim leaves the grammars alone, so what the later entries name is still there.
    exact ih later

/-! ## Mapping entries -/

section

variable (known : ∀ entry ∈ before, r.Knows entry.2)

include known

/-- **Entries that name registered grammars** are mapped, and then the others. -/
theorem mapExtensions_append (rest : List (String × String)) :
    mapExtensions (before ++ rest) r = mapExtensions rest (claimAll before r) := by
  induction before generalizing r with
  | nil => rfl
  | cons entry before ih =>
    obtain ⟨first, later⟩ := List.forall_mem_cons.mp known
    rw [List.cons_append, mapExtensions, mapExtension_of_knows first]
    exact ih later

theorem mapExtensions_of_knows : mapExtensions before r = (.ok (), claimAll before r) := by
  rw [← List.append_nil before, mapExtensions_append known, List.append_nil]
  rfl

/-- The first entry that names no registered grammar ends the mapping. -/
theorem mapExtensions_of_not_knows (unknown : ¬ r.Knows entry.2) :
    mapExtensions (before ++ entry :: after) r =
      (.error (.unknown entry.2 (r.closestName? entry.2)), claimAll before r) := by
  -- The suggestion is looked for behind the entries before, among the same grammars.
  have grammars := grammars_claimAll before r
  have unknown' : ¬ (claimAll before r).Knows entry.2 := by rwa [Knows, grammars]
  rw [mapExtensions_append known, mapExtensions, mapExtension_of_not_knows unknown', closestName?,
    closestName?, grammars]

end

/-- The extensions of entries, as the registry compares them. -/
def keys (entries : List (String × String)) : List String :=
  entries.map fun entry => normalizeExtension entry.1

theorem filter_not_mem_keys_cons (entry : String × String)
    (entries claims : List (String × String)) :
    claims.filter (·.1 ∉ keys (entry :: entries)) =
      (claims.filter (·.1 ≠ normalizeExtension entry.1)).filter (·.1 ∉ keys entries) := by
  rw [List.filter_filter]
  refine List.filter_congr fun claim _ => ?_
  rw [Bool.eq_iff_iff, Bool.and_eq_true, decide_eq_true_iff, decide_eq_true_iff, decide_eq_true_iff,
    keys, List.map_cons, List.mem_cons, not_or, and_comm, keys]

/-- Claims of some extensions leave those of others alone. -/
theorem filter_claimAll (others : String → Bool) (apart : ∀ key ∈ keys entries, others key = false)
    (r : Registry) :
    (claimAll entries r).extensions.filter (others ·.1) = r.extensions.filter (others ·.1) := by
  induction entries generalizing r with
  | nil => rfl
  | cons entry rest ih =>
    obtain ⟨first, later⟩ := List.forall_mem_cons.mp apart
    refine (ih later (r.claim entry.2 entry.1)).trans ?_
    rw [claim, List.filter_cons_of_neg (by simp [first]), List.filter_filter]
    refine List.filter_congr fun claim _ => Bool.and_eq_left_iff_imp.mpr fun other => ?_
    refine decide_eq_true fun same => ?_
    rw [same, first] at other
    cases other

/-- Registries that differ only in extensions that are claimed become the same. -/
theorem claimAll_congr (grammars : r.grammars = r'.grammars)
    (agree : r.extensions.filter (·.1 ∉ keys entries) =
      r'.extensions.filter (·.1 ∉ keys entries)) :
    claimAll entries r = claimAll entries r' := by
  induction entries generalizing r r' with
  | nil =>
    obtain ⟨g, x⟩ := r
    obtain ⟨g', x'⟩ := r'
    obtain rfl : g = g' := grammars
    obtain rfl : x = x' := by simpa [keys] using agree
    rfl
  | cons entry rest ih =>
    refine ih grammars ?_
    -- What the first claim takes away is not compared.
    rw [filter_not_mem_keys_cons, filter_not_mem_keys_cons] at agree
    simp only [claim, List.filter_cons, agree]

/-- **Mapping the same entries again changes nothing.** -/
theorem claimAll_claimAll (entries : List (String × String)) (r : Registry) :
    claimAll entries (claimAll entries r) = claimAll entries r := by
  have apart : ∀ key ∈ keys entries, decide (key ∉ keys entries) = false := fun key member =>
    decide_eq_false (not_not.mpr member)
  exact claimAll_congr (grammars_claimAll entries r) (filter_claimAll (· ∉ keys entries) apart r)

/-! ## Outcomes -/

/-- In the order of extensions, the entries before one are those of smaller extensions. -/
theorem filter_lt_eq (ordered : (before ++ entry :: after).Pairwise (·.1 < ·.1)) :
    (before ++ entry :: after).filter (·.1 < entry.1) = before := by
  obtain ⟨-, behind, across⟩ := List.pairwise_append.mp ordered
  have smaller : ∀ earlier ∈ before, decide (earlier.1 < entry.1) = true := fun earlier member =>
    decide_eq_true (across earlier member entry List.mem_cons_self)
  have others : ∀ later ∈ entry :: after, ¬ decide (later.1 < entry.1) = true := by
    intro later member
    rw [decide_eq_true_iff]
    rcases List.mem_cons.mp member with rfl | member
    · exact String.lt_irrefl _
    · exact String.lt_asymm ((List.pairwise_cons.mp behind).1 later member)
  rw [List.filter_append, List.filter_eq_self.mpr smaller, List.filter_eq_nil_iff.mpr others,
    List.append_nil]

/-- Where some entry names no registered grammar, there is a first one. -/
theorem exists_first_unknown (r : Registry) (unknown : ¬ ∀ entry ∈ entries, r.Knows entry.2) :
    ∃ before entry after, entries = before ++ entry :: after ∧
      (∀ earlier ∈ before, r.Knows earlier.2) ∧ ¬ r.Knows entry.2 := by
  obtain ⟨entry, found⟩ : ∃ entry, entries.find? (fun entry => ¬ r.Knows entry.2) = some entry := by
    refine Option.isSome_iff_exists.mp (List.find?_isSome.mpr ?_)
    simpa using unknown
  obtain ⟨missing, before, after, split, known⟩ := List.find?_eq_some_iff_append.mp found
  exact ⟨before, entry, after, split, by simpa using known, by simpa using missing⟩

variable {dialect : Regex.Dialect} {hash : Bytes → UInt64} {c : Config}
  {cache : RegexCache dialect hash}

theorem apply_of_knows (known : ∀ entry ∈ c.extensions.entries, r.Knows entry.2)
    (cache : RegexCache dialect hash) :
    c.apply r cache =
      (.ok (), claimAll c.extensions.entries r, cache.setCapacity c.capacity) := by
  rw [apply, mapExtensions_of_knows known]

/-- The first entry that names no registered grammar decides the error. The entries of smaller
extensions stay mapped. -/
theorem exists_apply_eq_error (unknown : ¬ ∀ entry ∈ c.extensions.entries, r.Knows entry.2)
    (cache : RegexCache dialect hash) :
    ∃ entry ∈ c.extensions.entries, ¬ r.Knows entry.2 ∧
      (∀ earlier ∈ c.extensions.entries, earlier.1 < entry.1 → r.Knows earlier.2) ∧
      c.apply r cache = (.error (.unknown entry.2 (r.closestName? entry.2)),
        claimAll (c.extensions.entries.filter (·.1 < entry.1)) r, cache) := by
  obtain ⟨before, entry, after, split, known, missing⟩ := exists_first_unknown r unknown
  -- The entries are in order, so those in front of this one are those of smaller extensions.
  have smaller : c.extensions.entries.filter (·.1 < entry.1) = before :=
    split ▸ filter_lt_eq (split ▸ c.extensions.ordered)
  refine ⟨entry, by simp [split], missing, fun earlier member less => known earlier ?_, ?_⟩
  · rw [← smaller]
    exact List.mem_filter.mpr ⟨member, decide_eq_true less⟩
  · rw [apply, smaller, split, mapExtensions_of_not_knows known missing]

section

variable {cache' : RegexCache dialect hash} (applied : c.apply r cache = (.ok (), r', cache'))

include applied

/-- **What is behind a configuration that was applied.** -/
theorem eq_of_apply_eq_ok :
    (∀ entry ∈ c.extensions.entries, r.Knows entry.2) ∧ r' = claimAll c.extensions.entries r ∧
      cache' = cache.setCapacity c.capacity := by
  by_cases known : ∀ entry ∈ c.extensions.entries, r.Knows entry.2
  · have same := applied.symm.trans (apply_of_knows known cache)
    exact ⟨known, (Prod.mk.inj (Prod.mk.inj same).2).1, (Prod.mk.inj (Prod.mk.inj same).2).2⟩
  · obtain ⟨entry, -, -, -, failed⟩ := exists_apply_eq_error known cache
    cases (Prod.mk.inj (failed.symm.trans applied)).1

/-- An extension that no entry is about is resolved as before. -/
theorem forExtension?_of_apply_eq_ok {e : String}
    (other : ∀ entry ∈ c.extensions.entries, ¬ SameExtension entry.1 e) :
    r'.forExtension? e = r.forExtension? e := by
  obtain ⟨-, grammars, owners⟩ := mapExtensions_eq_ok (mapExtensions_of_apply_eq_ok applied)
  have none : latest? c.extensions.entries e = none := by
    refine List.find?_eq_none.mpr fun entry member same => ?_
    exact other entry (List.mem_reverse.mp member) (of_decide_eq_true same)
  rw [forExtension?, forExtension?, owners, none, Option.map_none, Option.none_or]
  exact congrArg _ (funext fun name => by rw [Registry.find?, Registry.find?, grammars])

/-- A configuration that was applied can be applied again, with no further effect. -/
theorem apply_again : c.apply r' cache' = (.ok (), r', cache') := by
  obtain ⟨known, rfl, rfl⟩ := eq_of_apply_eq_ok applied
  have known' : ∀ entry ∈ c.extensions.entries,
      (claimAll c.extensions.entries r).Knows entry.2 := by
    simpa only [Knows, grammars_claimAll] using known
  rw [apply_of_knows known', claimAll_claimAll, RegexCache.setCapacity_setCapacity]

end

/-- **When a configuration is applied, and what it changes.** After any run of operations on an
empty registry, a configuration is applied without an error exactly when all grammars that its
entries name are registered. Otherwise the first of them in the order of the extensions that is not
registered is reported as unknown, the entries before it have been mapped in this order and no
others, and the cache is as it was. When there is no error, all entries have been mapped in this
order, no grammar has come in or gone, and an extension that no entry is about, in whatever
spelling, is resolved as before; the capacity of the cache is the one that was set, or else the
default, and the cache is within it. Applying the configuration once more changes nothing. -/
theorem apply_outcome (operations : List Operation) (c : Config) (cache : RegexCache dialect hash) :
    let r := (History.ofOperations operations).registry
    let mapped entries := (History.ofOperations (operations ++ entries.map mapping)).registry
    ((c.apply r cache).1 = .ok () ↔ ∀ entry ∈ c.extensions.entries, r.Knows entry.2) ∧
    (∀ reason, (c.apply r cache).1 = .error reason →
      ∃ entry ∈ c.extensions.entries, ¬ r.Knows entry.2 ∧
        (∀ earlier ∈ c.extensions.entries, earlier.1 < entry.1 → r.Knows earlier.2) ∧
        reason = .unknown entry.2 (r.closestName? entry.2) ∧
        c.apply r cache =
          (.error reason, mapped (c.extensions.entries.filter (·.1 < entry.1)), cache)) ∧
    ∀ r' cache', c.apply r cache = (.ok (), r', cache') →
      r' = mapped c.extensions.entries ∧ r'.grammars = r.grammars ∧
      (∀ e, (∀ entry ∈ c.extensions.entries, ¬ SameExtension entry.1 e) →
        r'.forExtension? e = r.forExtension? e) ∧
      cache'.capacity = c.cacheCapacity.getD RegexCache.defaultCapacity ∧
      cache'.size ≤ cache'.capacity ∧ c.apply r' cache' = (.ok (), r', cache') := by
  intro r mapped
  have mapped_eq {entries : List (String × String)} (known : ∀ entry ∈ entries, r.Knows entry.2) :
      mapped entries = claimAll entries r := by
    show (History.ofOperations (operations ++ entries.map mapping)).registry = _
    rw [History.ofOperations, List.foldl_append]
    exact registry_foldl_mapping known
  refine ⟨⟨fun ok => ?_, fun known => by rw [apply_of_knows known]⟩, fun reason failed => ?_,
    fun r' cache' applied => ?_⟩
  · exact (eq_of_apply_eq_ok (Prod.ext ok rfl)).1
  · have unknown : ¬ ∀ entry ∈ c.extensions.entries, r.Knows entry.2 := fun known => by
      rw [apply_of_knows known] at failed
      cases failed
    obtain ⟨entry, member, missing, first, outcome⟩ := exists_apply_eq_error unknown cache
    rw [outcome] at failed ⊢
    obtain rfl := Except.error.inj failed
    have earlier : ∀ other ∈ c.extensions.entries.filter (·.1 < entry.1), r.Knows other.2 :=
      fun other h =>
        first other (List.mem_filter.mp h).1 (of_decide_eq_true (List.mem_filter.mp h).2)
    exact ⟨entry, member, missing, first, rfl, by rw [mapped_eq earlier]⟩
  · obtain ⟨known, behind, sized⟩ := eq_of_apply_eq_ok applied
    have capacity : cache'.capacity = c.capacity := sized ▸ cache.capacity_setCapacity c.capacity
    refine ⟨behind.trans (mapped_eq known).symm, behind ▸ grammars_claimAll c.extensions.entries r,
      fun e => forExtension?_of_apply_eq_ok applied, capacity, ?_, apply_again applied⟩
    rw [capacity, sized]
    exact cache.size_setCapacity_le c.capacity

/-- Entries about one extension in two spellings, and one that names no grammar before
another one. -/
def interruptedConfig : Config :=
  { extensions := .ofList [("c", "go"), ("b", "cs"), ("a", "go"), ("..A", "css")] }

/-- A configuration that ends at its third entry, and one that shrinks the cache. -/
theorem apply_outcome_of_interrupted :
    let operations : List Operation :=
      [.register (.bundledAs "css" ["css"]), .register (.bundledAs "go" ["go"])]
    let r := (History.ofOperations operations).registry
    let cache := RegexCache.afterCalls .standard RegexCache.byteHash 256
      [.getOrCompile (Bytes.ofText "a"), .getOrCompile (Bytes.ofText "b")]
    let applied := { respelledConfig with cacheCapacity := some 1 : Config }.apply r cache
    interruptedConfig.apply r cache =
      (.error (.unknown "cs" (some "css")), (History.ofOperations
        (operations ++ [.mapExtension "..A" "css", .mapExtension "a" "go"])).registry, cache) ∧
    applied.1 = .ok () ∧ cache.size = 2 ∧ applied.2.2.size ≤ 1 ∧
    { respelledConfig with cacheCapacity := some 1 : Config }.apply applied.2.1 applied.2.2 =
      applied := by
  intro operations r cache applied
  refine ⟨?_, ?_⟩
  · obtain ⟨entry, member, missing, -, -, outcome⟩ :=
      (apply_outcome operations interruptedConfig cache).2.1 (.unknown "cs" (some "css"))
        (by decide +kernel)
    have third : ∀ entry ∈ interruptedConfig.extensions.entries,
        ¬ r.Knows entry.2 → entry = ("b", "cs") := by decide +kernel
    obtain rfl := third entry member missing
    exact outcome
  · have ok : applied.1 = .ok () := by decide +kernel
    obtain ⟨-, -, -, capacity, within, again⟩ :=
      (apply_outcome operations _ cache).2.2 applied.2.1 applied.2.2 (Prod.ext ok rfl)
    rw [capacity] at within
    exact ⟨ok, by decide +kernel, within, again.trans (Prod.ext ok.symm rfl)⟩

end Config

end SyntaxForest
