import Mathlib.Data.List.Sort
import Mathlib.Data.List.TakeWhile
import SyntaxForest.Proofs.Config.Application

/-!
# Settings that make no sense

Validation lists every setting that makes no sense, each once: the limit, the capacity, and then the
entries in the order of their extensions. It strips the leading dots of an extension and then looks
for anything but white space; the registry strips the dots and then puts letters into lower case,
which makes no letter a white space and no white space a letter. So the two agree on which
extensions are blank, and a configuration that nothing is wrong with never claims a blank one.

## Main definitions

* `IsBlank`, `IsBlankExtension`: texts of white space, and extensions with nothing else behind dots
* `Config.Violates`: what is wrong with settings
* `ValidationIssue.Precedes`: the order in which issues are listed

## Main results

* `isBlank_normalizeExtension_iff`: validation and the registry agree on blank extensions
* `Config.mem_issues_iff`, `Config.pairwise_issues`: the issues are what is wrong, in order
* `Config.mem_keys_of_mem_claimAll`: which extensions can be claimed behind entries
* `Config.validation_reports_all`: what is listed, and what a configuration without issues does
-/

namespace SyntaxForest

/-! ## Blank texts -/

/-- The text is white space, if there is any. -/
def IsBlank (text : String) : Prop := ∀ c ∈ text.toList, Unicode.isWhiteSpace c = true

/-- The extension is dots with white space behind them, if there are any. -/
def IsBlankExtension (e : String) : Prop :=
  ∃ dots rest, e.toList = dots ++ rest ∧ (∀ c ∈ dots, c = '.') ∧
    ∀ c ∈ rest, Unicode.isWhiteSpace c = true

/-- Behind the leading dots, a blank extension is white space. -/
theorem isBlankExtension_iff {e : String} :
    IsBlankExtension e ↔
      ∀ c ∈ e.toList.dropWhile (· = '.'), Unicode.isWhiteSpace c = true := by
  constructor
  · rintro ⟨dots, rest, text, only, blank⟩ c member
    rw [text, List.dropWhile_append_of_pos (by simpa using only)] at member
    exact blank c ((List.dropWhile_suffix _).subset member)
  · intro blank
    refine ⟨e.toList.takeWhile (· = '.'), e.toList.dropWhile (· = '.'),
      List.takeWhile_append_dropWhile.symm, fun c member => ?_, blank⟩
    simpa using List.mem_takeWhile_imp member

theorem toNat_toLower (c : Char) :
    c.toLower.toNat = if 65 ≤ c.toNat ∧ c.toNat ≤ 90 then c.toNat + 32 else c.toNat := by
  delta Char.toLower
  grind [Char.toNat, UInt32.toNat_add, UInt32.le_iff_toNat_le]

/-- Neither the capital letters nor the small ones are white space. -/
theorem isWhiteSpace_toLower (c : Char) :
    Unicode.isWhiteSpace c.toLower = Unicode.isWhiteSpace c := by
  rw [Unicode.isWhiteSpace, Unicode.isWhiteSpace, toNat_toLower]
  grind

/-- **The registry and validation agree** on the extensions of which nothing is left. -/
theorem isBlank_normalizeExtension_iff {e : String} :
    IsBlank (normalizeExtension e) ↔ IsBlankExtension e := by
  simp only [IsBlank, normalizeExtension, String.toList_ofList, List.forall_mem_map,
    isWhiteSpace_toLower, isBlankExtension_iff]

/-! ## Issues -/

namespace ValidationIssue

/-- The order in which issues are listed: the limit, the capacity, the entries by
their extensions. -/
inductive Precedes : ValidationIssue → ValidationIssue → Prop
  | numbers :
    Precedes (.zeroValue "parser.operation_limit_ms") (.zeroValue "query.regex_cache_capacity")
  | entry (field e : String) : Precedes (.zeroValue field) (.emptyName "languages.extensions" e)
  | entries {e f : String} (less : e < f) :
    Precedes (.emptyName "languages.extensions" e) (.emptyName "languages.extensions" f)

theorem Precedes.asymm {i j : ValidationIssue} (h : Precedes i j) : ¬ Precedes j i := by
  intro back
  cases h with
  | numbers =>
    -- The fields are other ones in the other order.
    generalize first : "parser.operation_limit_ms" = limit at back
    generalize second : "query.regex_cache_capacity" = capacity at back
    cases back
    exact absurd first (by decide)
  | entry field e => cases back
  | entries less =>
    cases back with
    | entries more => exact String.lt_asymm less more

instance : Std.Irrefl Precedes := ⟨fun _ h => h.asymm h⟩

instance : Std.Antisymm Precedes := ⟨fun _ _ h back => absurd back h.asymm⟩

end ValidationIssue

namespace Config

open Registry ValidationIssue

variable {c : Config} {issue : ValidationIssue} {r r' : Registry}

/-- What is wrong with the settings. -/
inductive Violates (c : Config) : ValidationIssue → Prop
  | limit (zero : c.operationLimit = some 0) : Violates c (.zeroValue "parser.operation_limit_ms")
  | capacity (zero : c.cacheCapacity = some 0) :
    Violates c (.zeroValue "query.regex_cache_capacity")
  | entry {entry : String × String} (member : entry ∈ c.extensions.entries)
    (blank : IsBlankExtension entry.1 ∨ IsBlank entry.2) :
    Violates c (.emptyName "languages.extensions" entry.1)

theorem isBlankEntry_iff {entry : String × String} :
    isBlankEntry entry = true ↔ IsBlankExtension entry.1 ∨ IsBlank entry.2 := by
  rw [isBlankEntry, Bool.or_eq_true, isBlankText, isBlankText, List.all_eq_true, List.all_eq_true,
    isBlankExtension_iff, IsBlank]

theorem mem_zeroIssue_iff {field : String} {value : Option Nat} :
    issue ∈ zeroIssue field value ↔ value = some 0 ∧ issue = .zeroValue field := by
  rw [zeroIssue]
  split
  next zero => simp [zero]
  next other => simp [other]

/-- **The issues are what is wrong.** -/
theorem mem_issues_iff : issue ∈ c.issues ↔ c.Violates issue := by
  simp only [issues, List.mem_append, mem_zeroIssue_iff, List.mem_map, List.mem_filter,
    isBlankEntry_iff]
  constructor
  · rintro ((⟨zero, rfl⟩ | ⟨zero, rfl⟩) | ⟨entry, ⟨member, blank⟩, rfl⟩)
    · exact .limit zero
    · exact .capacity zero
    · exact .entry member blank
  · rintro (zero | zero | ⟨member, blank⟩)
    · exact .inl (.inl ⟨zero, rfl⟩)
    · exact .inl (.inr ⟨zero, rfl⟩)
    · exact .inr ⟨_, ⟨member, blank⟩, rfl⟩

theorem pairwise_zeroIssue (field : String) (value : Option Nat) :
    (zeroIssue field value).Pairwise Precedes := by
  rw [zeroIssue]
  split
  · exact List.pairwise_singleton _ _
  · exact .nil

/-- **The issues are in order**, and so each is listed once. -/
theorem pairwise_issues (c : Config) : c.issues.Pairwise Precedes := by
  have entries : ((c.extensions.entries.filter isBlankEntry).map fun entry =>
      ValidationIssue.emptyName "languages.extensions" entry.1).Pairwise Precedes :=
    (c.extensions.ordered.filter _).map _ fun _ _ less => .entries less
  refine List.pairwise_append.mpr ⟨List.pairwise_append.mpr ⟨pairwise_zeroIssue _ _,
    pairwise_zeroIssue _ _, fun i hi j hj => ?_⟩, entries, fun i hi j hj => ?_⟩
  · obtain ⟨-, rfl⟩ := mem_zeroIssue_iff.mp hi
    obtain ⟨-, rfl⟩ := mem_zeroIssue_iff.mp hj
    exact .numbers
  · obtain ⟨entry, -, rfl⟩ := List.mem_map.mp hj
    rcases List.mem_append.mp hi with hi | hi
    · obtain ⟨-, rfl⟩ := mem_zeroIssue_iff.mp hi
      exact .entry _ _
    · obtain ⟨-, rfl⟩ := mem_zeroIssue_iff.mp hi
      exact .entry _ _

theorem issues_ne_nil_iff :
    c.issues ≠ [] ↔ c.operationLimit = some 0 ∨ c.cacheCapacity = some 0 ∨
      ∃ entry ∈ c.extensions.entries, IsBlankExtension entry.1 ∨ IsBlank entry.2 := by
  constructor
  · intro wrong
    obtain ⟨issue, member⟩ := List.exists_mem_of_ne_nil _ wrong
    rcases mem_issues_iff.mp member with zero | zero | ⟨listed, blank⟩
    · exact .inl zero
    · exact .inr (.inl zero)
    · exact .inr (.inr ⟨_, listed, blank⟩)
  · rintro (zero | zero | ⟨entry, listed, blank⟩)
    · exact List.ne_nil_of_mem (mem_issues_iff.mpr (.limit zero))
    · exact List.ne_nil_of_mem (mem_issues_iff.mpr (.capacity zero))
    · exact List.ne_nil_of_mem (mem_issues_iff.mpr (.entry listed blank))

/-! ## Configurations without issues -/

section

variable (accepted : c.issues = [])

include accepted

theorem not_violates (issue : ValidationIssue) : ¬ c.Violates issue := by
  rw [← mem_issues_iff, accepted]
  exact List.not_mem_nil

theorem one_le_operationLimit {limit : Nat} (set : c.operationLimit = some limit) : 1 ≤ limit := by
  refine Nat.one_le_iff_ne_zero.mpr ?_
  rintro rfl
  exact not_violates accepted _ (.limit set)

theorem one_le_cacheCapacity {capacity : Nat} (set : c.cacheCapacity = some capacity) :
    1 ≤ capacity := by
  refine Nat.one_le_iff_ne_zero.mpr ?_
  rintro rfl
  exact not_violates accepted _ (.capacity set)

/-- The default capacity is not zero either. -/
theorem one_le_capacity : 1 ≤ c.capacity := by
  rw [capacity]
  cases set : c.cacheCapacity with
  | none => decide
  | some capacity => exact one_le_cacheCapacity accepted set

/-- No entry claims a blank extension. -/
theorem not_isBlank_of_mem_keys {key : String} (member : key ∈ keys c.extensions.entries) :
    ¬ IsBlank key := by
  obtain ⟨entry, listed, rfl⟩ := List.mem_map.mp member
  intro blank
  exact not_violates accepted _ (.entry listed (.inl (isBlank_normalizeExtension_iff.mp blank)))

end

/-- **What is claimed behind entries** was claimed before, or some entry claims it. -/
theorem mem_keys_of_mem_claimAll {entries : List (String × String)} {key : String}
    (member : key ∈ (claimAll entries r).extensions.map (·.1)) :
    key ∈ keys entries ∨ key ∈ r.extensions.map (·.1) := by
  by_contra! ⟨unclaimed, fresh⟩
  -- Claims of other extensions leave this one alone.
  have same := filter_claimAll (· = key)
    (fun other h => decide_eq_false (ne_of_mem_of_not_mem h unclaimed)) r
  obtain ⟨claim, listed, rfl⟩ := List.mem_map.mp member
  have kept : claim ∈ r.extensions.filter (·.1 = claim.1) :=
    same ▸ List.mem_filter.mpr ⟨listed, decide_eq_true rfl⟩
  exact fresh (List.mem_map_of_mem (List.mem_filter.mp kept).1)

/-- **Validation reports everything, and in order.** Something is wrong with settings exactly when
the limit or the capacity is zero, or some entry has a blank grammar name or an extension of which
only white space is left behind its leading dots. The issues are what is wrong, each once: the limit
before the capacity, and both before the entries in the order of their extensions; no other list in
this order says the same. An extension is blank for validation exactly when what the registry makes
of it is white space. So a configuration that nothing is wrong with and that is applied without an
error leaves a limit, if it sets one, and a capacity that are not zero, and claims no extension that
is white space or nothing. -/
theorem validation_reports_all (c : Config) :
    (c.issues ≠ [] ↔ c.operationLimit = some 0 ∨ c.cacheCapacity = some 0 ∨
      ∃ entry ∈ c.extensions.entries, IsBlankExtension entry.1 ∨ IsBlank entry.2) ∧
    (∀ issue, issue ∈ c.issues ↔ c.Violates issue) ∧ c.issues.Pairwise Precedes ∧
    (∀ issues, issues.Pairwise Precedes → (∀ issue, issue ∈ issues ↔ c.Violates issue) →
      issues = c.issues) ∧
    (∀ e, IsBlank (normalizeExtension e) ↔ IsBlankExtension e) ∧
    ∀ {dialect : Regex.Dialect} {hash : Bytes → UInt64} (r r' : Registry)
      (cache cache' : RegexCache dialect hash),
      c.issues = [] → c.apply r cache = (.ok (), r', cache') →
      (∀ limit, c.operationLimit = some limit → 1 ≤ limit) ∧
      (∀ capacity, c.cacheCapacity = some capacity → 1 ≤ capacity) ∧ 1 ≤ cache'.capacity ∧
      ∀ key ∈ r'.extensions.map (·.1), IsBlank key → key ∈ r.extensions.map (·.1) := by
  refine ⟨issues_ne_nil_iff, fun _ => mem_issues_iff, pairwise_issues c,
    fun issues ordered same => ?_, fun _ => isBlank_normalizeExtension_iff,
    fun r r' cache cache' accepted applied => ?_⟩
  · -- The order is strict, so what is in a list determines the list.
    exact ordered.eq_of_mem_iff (pairwise_issues c) fun issue =>
      (same issue).trans mem_issues_iff.symm
  · obtain ⟨-, behind, sized⟩ := eq_of_apply_eq_ok applied
    refine ⟨fun _ => one_le_operationLimit accepted, fun _ => one_le_cacheCapacity accepted, ?_,
      fun key member blank => ?_⟩
    · rw [sized, RegexCache.capacity_setCapacity]
      exact one_le_capacity accepted
    · rw [behind] at member
      exact (mem_keys_of_mem_claimAll member).resolve_left fun claimed =>
        not_isBlank_of_mem_keys accepted claimed blank

/-- Settings that make sense, with an extension behind dots. -/
def dottedConfig : Config :=
  { operationLimit := some 5, cacheCapacity := some 1, extensions := .ofList [("..A", "css")] }

/-- The empty extension, which was claimed before, is the only blank one behind these settings. -/
theorem validation_reports_all_of_dotted :
    let r := cssAndGo [("", "go")]
    let r' := cssAndGo [("a", "css"), ("", "go")]
    dottedConfig.issues = [] ∧
    dottedConfig.apply r ({} : RegexCache .standard RegexCache.byteHash) =
      (.ok (), r', { capacity := 1 }) ∧
    ("" ∈ r'.extensions.map (·.1) ∧ IsBlank "" ∧ "" ∈ r.extensions.map (·.1)) ∧ ¬ IsBlank "a" ∧
    { dottedConfig with operationLimit := some 0 : Config }.issues ≠ [] := by
  intro r r'
  have accepted : dottedConfig.issues = [] := by decide +kernel
  have applied : dottedConfig.apply r ({} : RegexCache .standard RegexCache.byteHash) =
      (.ok (), r', { capacity := 1 }) := rfl
  obtain ⟨-, -, -, before⟩ :=
    (validation_reports_all dottedConfig).2.2.2.2.2 r r' {} { capacity := 1 } accepted applied
  have blank : IsBlank "" := by
    intro c member
    cases member
  have claimed : "" ∈ r'.extensions.map (·.1) := by decide
  refine ⟨accepted, applied, ⟨claimed, blank, before "" claimed blank⟩, fun blank => ?_,
    (validation_reports_all _).1.mpr (.inl rfl)⟩
  exact absurd (blank 'a' (by decide)) (by decide)

/-- Every issue is listed, in order: an entry is at fault for its extension or for its grammar. -/
example :
    { operationLimit := some 0, cacheCapacity := some 0,
      extensions := .ofList [("b", " "), ("go", "go"), (".. ", "css")] : Config }.issues =
      [.zeroValue "parser.operation_limit_ms", .zeroValue "query.regex_cache_capacity",
        .emptyName "languages.extensions" ".. ", .emptyName "languages.extensions" "b"] := by
  decide +kernel

end Config

end SyntaxForest
