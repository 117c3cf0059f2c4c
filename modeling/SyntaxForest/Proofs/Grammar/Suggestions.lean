import Mathlib.Algebra.Order.Field.Basic
import Mathlib.Algebra.Order.Ring.Rat
import Mathlib.Data.List.Induction
import SyntaxForest.Proofs.Grammar.Registration
import SyntaxForest.Proofs.Text.EditDistance

/-!
# Suggestions

An unknown name is reported with the registered name that is closest to it, if one is close. How far
names are from each other is the least number of changes of a character between them, in proportion
to the length of the longer one; names are close when this is at most two fifths. The names are gone
through in order, and one that is as close as the best one before takes its place. So of the closest
names it is the last in the order that is suggested.

## Main definitions

* `Registry.Distance.ratio`: the number of changes in proportion to the length
* `Registry.IsClosest`: the closest of some names, and the last of these

## Main results

* `Registry.pairwise_grammars`: the grammars of a registry stand in name order, each name once
* `Registry.isClosest_foldl_closer`: going through names in order finds the closest one
* `Registry.closestName?_eq_some`, `Registry.closestName?_eq_none_iff`: the suggestion for a name
* `Registry.suggestion_is_closest`: what the report of an unknown name suggests
-/

namespace SyntaxForest

namespace Registry

variable {r r' : Registry} {name s : String}

/-! ## Name order -/

/-- A grammar with a free name comes into its place. -/
theorem pairwise_insertByName {g : Grammar} {grammars : List Grammar}
    (ordered : grammars.Pairwise (·.name < ·.name)) (free : ∀ h ∈ grammars, h.name ≠ g.name) :
    (insertByName g grammars).Pairwise (·.name < ·.name) := by
  induction grammars with
  | nil => exact List.pairwise_singleton _ g
  | cons h rest ih =>
    obtain ⟨first, later⟩ := List.pairwise_cons.mp ordered
    obtain ⟨other, others⟩ := List.forall_mem_cons.mp free
    rw [insertByName]
    split
    next less =>
      refine List.pairwise_cons.mpr ⟨fun k hk => ?_, ordered⟩
      rcases List.mem_cons.mp hk with rfl | hk
      · exact less
      · exact String.lt_trans less (first k hk)
    next notLess =>
      have more : h.name < g.name := by
        by_contra notMore
        exact other (String.le_antisymm (String.not_lt.mp notLess) (String.not_lt.mp notMore))
      refine List.pairwise_cons.mpr ⟨fun k hk => ?_, ih later others⟩
      rcases mem_insertByName.mp hk with rfl | hk
      · exact more
      · exact first k hk

theorem pairwise_attempt {op : Operation} (ordered : r.grammars.Pairwise (·.name < ·.name))
    (succeeds : r.attempt op = .ok r') : r'.grammars.Pairwise (·.name < ·.name) := by
  cases op with
  | register g =>
    obtain ⟨free, -, rfl⟩ := register_eq_ok succeeds
    exact pairwise_insertByName ordered (find?_eq_none_iff.mp free)
  | mapExtension e name =>
    obtain ⟨-, rfl⟩ := mapExtension_eq_ok succeeds
    exact ordered

/-- **The grammars stand in name order** after every run of operations. -/
theorem pairwise_grammars (operations : List Operation) :
    (History.ofOperations operations).registry.grammars.Pairwise (·.name < ·.name) := by
  induction operations using List.reverseRecOn with
  | nil => exact .nil
  | append_singleton before op ih =>
    rw [History.ofOperations, List.foldl_concat, History.step]
    split
    next r succeeds => exact pairwise_attempt ih succeeds
    next => exact ih

/-! ## Ratios -/

namespace Distance

/-- The number of changes in proportion to the length of the longer name. -/
def ratio (d : Distance) : ℚ := d.edits / d.length

theorem isClose_iff {d : Distance} (positive : 0 < d.length) :
    d.isClose = true ↔ d.ratio ≤ 2 / 5 := by
  rw [isClose, decide_eq_true_iff, ratio,
    div_le_div_iff₀ (by exact_mod_cast positive) (by norm_num), mul_comm 5]
  exact_mod_cast Iff.rfl

theorem le_iff {d e : Distance} (hd : 0 < d.length) (he : 0 < e.length) :
    d.le e = true ↔ d.ratio ≤ e.ratio := by
  rw [le, decide_eq_true_iff, ratio, ratio,
    div_le_div_iff₀ (by exact_mod_cast hd) (by exact_mod_cast he)]
  exact_mod_cast Iff.rfl

/-- Only empty names have no length together. -/
theorem length_between_pos {c : String} (other : c ≠ name) : 0 < (between name c).length := by
  by_contra zero
  have lengths : max name.toList.length c.toList.length = 0 := Nat.eq_zero_of_not_pos zero
  obtain ⟨left, right⟩ : name.toList = [] ∧ c.toList = [] := by
    constructor <;> refine List.eq_nil_of_length_eq_zero ?_ <;> omega
  exact other (String.toList_inj.mp (right.trans left.symm))

end Distance

/-! ## The closest of some names -/

variable {near : List (String × Distance)} {best : String × Distance}

/-- No name of the list is closer than the best one, and those that are as close come before it. -/
structure IsClosest (near : List (String × Distance)) (best : String × Distance) : Prop where
  mem : best ∈ near
  ratio_le : ∀ other ∈ near, best.2.ratio ≤ other.2.ratio
  le_of_ratio_eq : ∀ other ∈ near, other.2.ratio = best.2.ratio → other.1 ≤ best.1

/-- A name behind all others is the best one if it is as close as the best one before. -/
theorem IsClosest.snoc_of_le (h : IsClosest near best) {next : String × Distance}
    (last : ∀ other ∈ near, other.1 < next.1) (closer : next.2.ratio ≤ best.2.ratio) :
    IsClosest (near ++ [next]) next := by
  refine ⟨List.mem_append_right near List.mem_cons_self, fun other member => ?_,
    fun other member _ => ?_⟩
  · rcases List.mem_append.mp member with member | member
    · exact closer.trans (h.ratio_le other member)
    · rw [List.mem_singleton.mp member]
  · rcases List.mem_append.mp member with member | member
    · exact String.not_lt.mp (String.lt_asymm (last other member))
    · exact List.mem_singleton.mp member ▸ String.le_refl _

theorem IsClosest.snoc_of_lt (h : IsClosest near best) {next : String × Distance}
    (farther : best.2.ratio < next.2.ratio) : IsClosest (near ++ [next]) best := by
  refine ⟨List.mem_append_left _ h.mem, fun other member => ?_, fun other member same => ?_⟩
  · rcases List.mem_append.mp member with member | member
    · exact h.ratio_le other member
    · rw [List.mem_singleton.mp member]
      exact farther.le
  · rcases List.mem_append.mp member with member | member
    · exact h.le_of_ratio_eq other member same
    · rw [List.mem_singleton.mp member] at same
      exact absurd same farther.ne'

theorem foldl_closer_eq_none_iff : near.foldl closer none = none ↔ near = [] := by
  induction near using List.reverseRecOn with
  | nil => exact iff_of_true rfl rfl
  | append_singleton before next _ =>
    rw [List.foldl_concat]
    refine iff_of_false ?_ (by simp)
    cases before.foldl closer none with
    | none => exact Option.some_ne_none next
    | some first =>
      rw [closer]
      split <;> exact Option.some_ne_none _

/-- **Going through names in order finds the closest one**, the last of those that are as close. -/
theorem isClosest_foldl_closer (ordered : near.Pairwise (·.1 < ·.1))
    (positive : ∀ other ∈ near, 0 < other.2.length) (found : near.foldl closer none = some best) :
    IsClosest near best := by
  -- By induction on the names gone through so far: the next one is behind all of them.
  induction near using List.reverseRecOn generalizing best with
  | nil => cases found
  | append_singleton before next ih =>
    obtain ⟨earlier, -, last⟩ := List.pairwise_append.mp ordered
    have behind : ∀ other ∈ before, other.1 < next.1 := fun other member =>
      last other member next List.mem_cons_self
    have lengths : ∀ other ∈ before, 0 < other.2.length := fun other member =>
      positive other (List.mem_append_left _ member)
    have length : 0 < next.2.length := positive next (List.mem_append_right _ List.mem_cons_self)
    rw [List.foldl_concat] at found
    cases so_far : before.foldl closer none with
    | none =>
      rw [so_far] at found
      obtain rfl := Option.some.inj found
      obtain rfl := foldl_closer_eq_none_iff.mp so_far
      exact ⟨List.mem_cons_self, by simp, by simp⟩
    | some first =>
      have closest := ih earlier lengths so_far
      have le_iff := Distance.le_iff length (lengths first closest.mem)
      rw [so_far, closer] at found
      split at found
      next le =>
        obtain rfl := Option.some.inj found
        exact closest.snoc_of_le behind (le_iff.mp le)
      next notLe =>
        obtain rfl := Option.some.inj found
        exact closest.snoc_of_lt (not_le.mp (mt le_iff.mpr notLe))

/-! ## Suggestions -/

/-- The registered names that are close to a name, in order. -/
def closeNames (r : Registry) (name : String) : List (String × Distance) :=
  (r.grammars.map fun g => (g.name, Distance.between name g.name)).filter (·.2.isClose)

theorem closestName?_eq (r : Registry) (name : String) :
    r.closestName? name = ((r.closeNames name).foldl closer none).map (·.1) := rfl

theorem mem_closeNames_iff {other : String × Distance} :
    other ∈ r.closeNames name ↔
      r.Knows other.1 ∧ other.2 = Distance.between name other.1 ∧ other.2.isClose = true := by
  obtain ⟨c, d⟩ := other
  rw [closeNames, List.mem_filter, List.mem_map]
  constructor
  · rintro ⟨⟨g, member, same⟩, close⟩
    obtain ⟨rfl, rfl⟩ := Prod.mk.inj same
    exact ⟨⟨g, member, rfl⟩, rfl, close⟩
  · rintro ⟨⟨g, member, rfl⟩, same, close⟩
    obtain rfl : d = Distance.between name g.name := same
    exact ⟨⟨g, member, rfl⟩, close⟩

theorem pairwise_closeNames (ordered : r.grammars.Pairwise (·.name < ·.name)) (name : String) :
    (r.closeNames name).Pairwise (·.1 < ·.1) := by
  refine List.Pairwise.filter _ (List.pairwise_map.mpr ?_)
  exact ordered

theorem closestName?_eq_none_iff :
    r.closestName? name = none ↔ ∀ c, r.Knows c → (Distance.between name c).isClose = false := by
  rw [closestName?_eq, Option.map_eq_none_iff, foldl_closer_eq_none_iff,
    List.eq_nil_iff_forall_not_mem]
  constructor
  · intro none c known
    exact Bool.eq_false_iff.mpr fun close =>
      none (c, Distance.between name c) (mem_closeNames_iff.mpr ⟨known, rfl, close⟩)
  · intro far other member
    obtain ⟨known, same, close⟩ := mem_closeNames_iff.mp member
    rw [same, far other.1 known] at close
    cases close

section

variable (ordered : r.grammars.Pairwise (·.name < ·.name)) (unknown : ¬ r.Knows name)

include ordered unknown

/-- **The suggestion for an unknown name** is registered, and the last in order of the registered
names that are closest. -/
theorem closestName?_eq_some (found : r.closestName? name = some s) :
    r.Knows s ∧ ∀ c, r.Knows c →
      (Distance.between name s).ratio ≤ (Distance.between name c).ratio ∧
      ((Distance.between name c).ratio = (Distance.between name s).ratio → c ≤ s) := by
  have positive {c : String} (known : r.Knows c) : 0 < (Distance.between name c).length :=
    Distance.length_between_pos fun same => unknown (same ▸ known)
  obtain ⟨⟨s, d⟩, first, rfl⟩ := Option.map_eq_some_iff.mp ((closestName?_eq r name) ▸ found)
  have closest : IsClosest (r.closeNames name) (s, d) := by
    refine isClosest_foldl_closer (pairwise_closeNames ordered name) (fun other member => ?_) first
    obtain ⟨known, same, -⟩ := mem_closeNames_iff.mp member
    exact same ▸ positive known
  obtain ⟨known, same, close⟩ := mem_closeNames_iff.mp closest.mem
  obtain rfl : d = Distance.between name s := same
  have close : (Distance.between name s).ratio ≤ 2 / 5 :=
    (Distance.isClose_iff (positive known)).mp close
  refine ⟨known, fun c hc => ?_⟩
  rcases le_or_gt (Distance.between name c).ratio (2 / 5) with near | far
  · have member : (c, Distance.between name c) ∈ r.closeNames name :=
      mem_closeNames_iff.mpr ⟨hc, rfl, (Distance.isClose_iff (positive hc)).mpr near⟩
    exact ⟨closest.ratio_le (c, Distance.between name c) member,
      closest.le_of_ratio_eq (c, Distance.between name c) member⟩
  · -- A name that is not close is farther than every one that is.
    have farther : (Distance.between name s).ratio < (Distance.between name c).ratio :=
      close.trans_lt far
    exact ⟨farther.le, fun tie => absurd tie farther.ne'⟩

end

/-- **What is suggested for a name that is not registered.** After any run of operations on an empty
registry, asking for a name fails exactly when no grammar has it. The report then suggests a name
exactly when some registered name is close, by at most two changes for five characters of the longer
name, where changes are counted as the least number that lead from one name to the other. What is
suggested is a registered name; no registered name is closer in proportion to the length, and of
those that are as close it is the last in order. -/
theorem suggestion_is_closest (operations : List Operation) (name : String) :
    let r := (History.ofOperations operations).registry
    let distance c := Distance.between name c
    (∀ c, IsLeast {n | ChangesTo n name.toList c.toList} (distance c).edits ∧
      (distance c).length = max name.length c.length) ∧
    ((∃ reason, r.get name = .error reason) ↔ ¬ r.Knows name) ∧
    ∀ reason, r.get name = .error reason → ∃ suggestion, reason = .unknown name suggestion ∧
      ((∃ s, suggestion = some s) ↔
        ∃ c, r.Knows c ∧ 5 * (distance c).edits ≤ 2 * (distance c).length) ∧
      ∀ s, suggestion = some s → r.Knows s ∧ ∀ c, r.Knows c →
        (distance s).ratio ≤ (distance c).ratio ∧
        ((distance c).ratio = (distance s).ratio → c ≤ s) := by
  intro r distance
  have fails_iff : (∃ reason, r.get name = .error reason) ↔ ¬ r.Knows name := by
    refine ⟨?_, fun unknown => ⟨_, get_of_not_knows unknown⟩⟩
    rintro ⟨reason, failed⟩ known
    obtain ⟨g, found⟩ := knows_iff.mp known
    cases failed.symm.trans (get_eq_ok_iff.mpr found)
  refine ⟨fun c => ⟨isLeast_editDistance _ _, ?_⟩, fails_iff, fun reason failed => ?_⟩
  · simp only [distance, Distance.between, String.length_toList]
  · have unknown := fails_iff.mp ⟨reason, failed⟩
    obtain rfl := Except.error.inj (failed.symm.trans (get_of_not_knows unknown))
    refine ⟨r.closestName? name, rfl, ?_,
      fun s => closestName?_eq_some (pairwise_grammars operations) unknown⟩
    rw [← Option.ne_none_iff_exists', Ne, closestName?_eq_none_iff]
    simp [distance, Distance.isClose]

/-- Two names are as close to the one that is asked for; the last of them in order is suggested. -/
theorem suggestion_is_closest_of_tie :
    let r := (History.ofOperations [.register (.bundledAs "rust" ["rs"]),
      .register (.bundledAs "ruby" ["rb"]), .register (.bundledAs "go" ["go"])]).registry
    r.get "rubt" = .error (.unknown "rubt" (some "rust")) ∧ r.Knows "rust" ∧ r.Knows "ruby" ∧
    (Distance.between "rubt" "ruby").ratio = (Distance.between "rubt" "rust").ratio ∧
    "ruby" ≤ "rust" := by
  intro r
  have failed : r.get "rubt" = .error (.unknown "rubt" (some "rust")) := by decide +kernel
  have ruby : r.Knows "ruby" := by decide +kernel
  have tie : Distance.between "rubt" "ruby" = Distance.between "rubt" "rust" := by decide +kernel
  obtain ⟨suggestion, same, -, closest⟩ :=
    (suggestion_is_closest [.register (.bundledAs "rust" ["rs"]),
      .register (.bundledAs "ruby" ["rb"]), .register (.bundledAs "go" ["go"])] "rubt").2.2 _ failed
  obtain rfl := (RegistryError.unknown.inj same).2
  obtain ⟨known, least⟩ := closest "rust" rfl
  have ratios := congrArg Distance.ratio tie
  exact ⟨failed, known, ruby, ratios, (least "ruby" ruby).2 ratios⟩

end Registry

end SyntaxForest
