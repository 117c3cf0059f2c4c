import Mathlib.Data.List.Basic
import SyntaxForest.Proofs.Query.TopLevel
import SyntaxForest.Proofs.Query.Validation
import SyntaxForest.Regex.Parser

/-!
# Predicates and their patterns

A predicate form belongs to the top-level form that encloses it, and a predicate to the pattern that
starts last at or before its form. The two agree when the patterns start where the engine says they
do: at the brackets of the top-level forms that enclose predicates, and nowhere between the brackets
of a top-level form. Then no predicate is lost, repeated or attached to a neighbour.

## Main definitions

* `Aligned`: pattern starts that agree with the top-level forms of a query
* `StandsIn`: a form stands in the top-level form at which a pattern starts
* `attach`: predicates with the patterns of their forms

## Main results

* `Aligned.patternAt?_eq_some_iff`: a form's pattern is the one that starts at its top-level form
* `flatMap_filter_range`: a list in order of its keys is taken apart by key without loss
* `compile_attaches_by_top_form`: what a query with aligned patterns compiles to
-/

namespace SyntaxForest.Query

/-! ## The pattern of an offset -/

section PatternAt

variable {starts : List Nat} {offset : Nat}

theorem lt_length_takeWhile_iff (sorted : starts.Pairwise (· < ·)) {i : Nat}
    (hi : i < starts.length) : i < (starts.takeWhile (· ≤ offset)).length ↔ starts[i] ≤ offset := by
  induction starts generalizing i with
  | nil => simp at hi
  | cons start starts ih =>
    obtain ⟨first, sorted⟩ := List.pairwise_cons.mp sorted
    by_cases reached : start ≤ offset
    · cases i with
      | zero => simp [reached]
      | succ i => simpa [reached] using ih sorted (by simpa using hi)
    · -- Past the first start that lies behind the offset, all do.
      have later : ¬ (start :: starts)[i] ≤ offset := by
        cases i with
        | zero => exact reached
        | succ i =>
          have := first _ (List.getElem_mem (by simpa using hi))
          simp only [List.getElem_cons_succ]
          omega
      simp [reached, later]

theorem patternAt?_eq_some_iff {i : Fin starts.length} :
    patternAt? starts offset = some i ↔
      (starts.takeWhile (· ≤ offset)).length = i.val + 1 := by
  simp only [patternAt?]
  split
  next h =>
    simp only [Option.some.injEq, Fin.ext_iff]
    omega
  next h =>
    simp only [reduceCtorEq, false_iff]
    omega

/-- The pattern of an offset is one that starts at or before it, with no later one in between. -/
theorem patternAt?_eq_some (sorted : starts.Pairwise (· < ·)) {i : Fin starts.length}
    (reached : starts[i] ≤ offset) (last : ∀ s ∈ starts, s ≤ offset → s ≤ starts[i]) :
    patternAt? starts offset = some i := by
  have here := (lt_length_takeWhile_iff sorted i.isLt).mpr reached
  have bound : (starts.takeWhile (· ≤ offset)).length ≤ starts.length :=
    (List.takeWhile_prefix _).length_le
  have next : ¬ i.val + 1 < (starts.takeWhile (· ≤ offset)).length := by
    intro h
    have inside : i.val + 1 < starts.length := Nat.lt_of_lt_of_le h bound
    have le := last _ (List.getElem_mem inside) ((lt_length_takeWhile_iff sorted inside).mp h)
    have lt := List.pairwise_iff_getElem.mp sorted i.val (i.val + 1) i.isLt inside (by omega)
    exact absurd le (Nat.not_le_of_lt lt)
  rw [patternAt?_eq_some_iff]
  omega

theorem length_takeWhile_mono {offset' : Nat} (le : offset ≤ offset') :
    (starts.takeWhile (· ≤ offset)).length ≤ (starts.takeWhile (· ≤ offset')).length := by
  induction starts with
  | nil => simp
  | cons start starts ih =>
    by_cases reached : start ≤ offset
    · simp [reached, Nat.le_trans reached le, ih]
    · simp [reached]

/-- Later offsets have later patterns. -/
theorem patternAt?_mono {offset' : Nat} (le : offset ≤ offset') {i j : Fin starts.length}
    (hi : patternAt? starts offset = some i) (hj : patternAt? starts offset' = some j) : i ≤ j := by
  rw [patternAt?_eq_some_iff] at hi hj
  have mono := @length_takeWhile_mono starts offset offset' le
  rw [Fin.le_def]
  omega

end PatternAt

/-! ## Aligned patterns -/

/-- The patterns start at increasing offsets, one of them at each top-level form with predicates and
none between the brackets of a top-level form. -/
structure Aligned (source : Bytes) (starts : List Nat) : Prop where
  /-- The offsets increase. -/
  increasing : starts.Pairwise (· < ·)
  /-- A pattern starts at each top-level form that encloses a predicate form. -/
  begins : ∀ t ∈ topForms source, t.predicates ≠ [] → t.start ∈ starts
  /-- No pattern starts between the brackets of a top-level form. -/
  apart : ∀ t ∈ topForms source, ∀ s ∈ starts, ¬ (t.start < s ∧ s < t.stop)

/-- The form stands in the top-level form at which the pattern starts. -/
def StandsIn (source : Bytes) (starts : List Nat) (pattern : Nat) (raw : RawPredicate) : Prop :=
  ∃ t ∈ topForms source, raw ∈ t.predicates ∧ starts[pattern]? = some t.start

instance (source : Bytes) (starts : List Nat) (pattern : Nat) (raw : RawPredicate) :
    Decidable (StandsIn source starts pattern raw) :=
  inferInstanceAs (Decidable (∃ t ∈ topForms source, _))

namespace Aligned

variable {source : Bytes} {starts : List Nat} {raw : RawPredicate}

/-- The form of a top-level form belongs to the pattern that starts there. -/
theorem patternAt?_of_mem (h : Aligned source starts) {t : TopForm} (ht : t ∈ topForms source)
    (hraw : raw ∈ t.predicates) {i : Fin starts.length} (hi : starts[i] = t.start) :
    patternAt? starts raw.offset = some i := by
  obtain ⟨after, inside⟩ := encloses_of_mem_topForms ht raw hraw
  -- A later start at or before the form would lie between the brackets of `t`.
  refine patternAt?_eq_some h.increasing (by omega) fun s hs reached => ?_
  have := h.apart t ht s hs
  omega

theorem exists_standsIn (h : Aligned source starts) {e : Extraction}
    (extracted : extract source = .ok e) (hraw : raw ∈ e.predicates) :
    ∃ i : Fin starts.length, StandsIn source starts i raw := by
  rw [← flatMap_predicates_topForms extracted, List.mem_flatMap] at hraw
  obtain ⟨t, ht, hraw⟩ := hraw
  obtain ⟨i, hi, same⟩ := List.getElem_of_mem (h.begins t ht (List.ne_nil_of_mem hraw))
  exact ⟨⟨i, hi⟩, t, ht, hraw, by rw [List.getElem?_eq_getElem hi, same]⟩

/-- A form's pattern is the one that starts at its top-level form. -/
theorem patternAt?_eq_some_iff (h : Aligned source starts) {e : Extraction}
    (extracted : extract source = .ok e) (hraw : raw ∈ e.predicates) {i : Fin starts.length} :
    patternAt? starts raw.offset = some i ↔ StandsIn source starts i raw := by
  -- A form has one pattern at most, so it is enough that each top-level form around it gives one.
  have ofStandsIn {j : Fin starts.length} (hj : StandsIn source starts j raw) :
      patternAt? starts raw.offset = some j := by
    obtain ⟨t, ht, hraw, start⟩ := hj
    rw [List.getElem?_eq_getElem j.isLt] at start
    exact h.patternAt?_of_mem ht hraw (Option.some.inj start)
  constructor
  · intro hi
    obtain ⟨j, hj⟩ := h.exists_standsIn extracted hraw
    obtain rfl : i = j := Option.some.inj (hi.symm.trans (ofStandsIn hj))
    exact hj
  · exact ofStandsIn

/-- Every form has a pattern. -/
theorem exists_patternAt? (h : Aligned source starts) {e : Extraction}
    (extracted : extract source = .ok e) :
    ∀ raw ∈ e.predicates, ∃ i, patternAt? starts raw.offset = some i := by
  intro raw hraw
  obtain ⟨i, hi⟩ := h.exists_standsIn extracted hraw
  exact ⟨i, (h.patternAt?_eq_some_iff extracted hraw).mpr hi⟩

/-- A form stands in exactly one pattern's top-level form. -/
theorem standsIn_unique (h : Aligned source starts) {e : Extraction}
    (extracted : extract source = .ok e) (hraw : raw ∈ e.predicates) {i : Fin starts.length}
    (hi : patternAt? starts raw.offset = some i) {j : Nat} (hj : StandsIn source starts j raw) :
    j = i := by
  have inside : j < starts.length := by
    obtain ⟨t, -, -, start⟩ := hj
    exact (List.getElem?_eq_some_iff.mp start).1
  have at_j := (h.patternAt?_eq_some_iff extracted hraw (i := ⟨j, inside⟩)).mpr hj
  exact congrArg Fin.val (Option.some.inj (at_j.symm.trans hi))

theorem any_patternAt?_eq (h : Aligned source starts) {e : Extraction}
    (extracted : extract source = .ok e) (hraw : raw ∈ e.predicates) (pattern : Nat) :
    (patternAt? starts raw.offset).any (·.val = pattern) =
      decide (StandsIn source starts pattern raw) := by
  obtain ⟨i, hi⟩ := h.exists_standsIn extracted hraw
  have at_i := (h.patternAt?_eq_some_iff extracted hraw).mpr hi
  rw [at_i, Option.any_some, decide_eq_decide]
  constructor
  · rintro rfl
    exact hi
  · exact fun hj => (h.standsIn_unique extracted hraw at_i hj).symm

end Aligned

/-! ## Attaching -/

/-- The predicates with the patterns of their forms. -/
def attach (starts : List Nat) (raws : List RawPredicate) (predicates : List Predicate) :
    List (Fin starts.length × Predicate) :=
  (raws.zip predicates).filterMap fun x => (patternAt? starts x.1.offset).map (·, x.2)

section Attach

variable {starts : List Nat} {raws : List RawPredicate} {predicates : List Predicate}

theorem attach_cons {raw : RawPredicate} {predicate : Predicate} {i : Fin starts.length}
    (h : patternAt? starts raw.offset = some i) :
    attach starts (raw :: raws) (predicate :: predicates) =
      (i, predicate) :: attach starts raws predicates := by
  simp [attach, h]

/-- Attaching keeps all predicates, in order, when every form has a pattern. -/
theorem map_snd_attach (length : predicates.length = raws.length)
    (h : ∀ raw ∈ raws, ∃ i, patternAt? starts raw.offset = some i) :
    (attach starts raws predicates).map Prod.snd = predicates := by
  induction raws generalizing predicates with
  | nil => simp [attach, List.length_eq_zero_iff.mp length]
  | cons raw raws ih =>
    cases predicates with
    | nil => simp at length
    | cons predicate predicates =>
      obtain ⟨i, hi⟩ := h raw List.mem_cons_self
      rw [attach_cons hi, List.map_cons,
        ih (by simpa using length) fun raw hraw => h raw (List.mem_cons_of_mem _ hraw)]

/-- The predicates of one pattern are those whose forms have it. -/
theorem filter_attach (pattern : Nat) :
    ((attach starts raws predicates).filter (·.1.val = pattern)).map Prod.snd =
      ((raws.zip predicates).filter fun x =>
        (patternAt? starts x.1.offset).any (·.val = pattern)).map Prod.snd := by
  unfold attach
  induction raws.zip predicates with
  | nil => rfl
  | cons x xs ih =>
    cases h : patternAt? starts x.1.offset with
    | none => simpa [h] using ih
    | some i =>
      by_cases here : i.val = pattern
      · simpa [h, here] using ih
      · simpa [h, here] using ih

theorem exists_of_mem_attach {x : Fin starts.length × Predicate}
    (h : x ∈ attach starts raws predicates) :
    ∃ raw ∈ raws, patternAt? starts raw.offset = some x.1 := by
  simp only [attach, List.mem_filterMap, Option.map_eq_some_iff] at h
  obtain ⟨y, hy, i, hi, rfl⟩ := h
  exact ⟨y.1, (List.of_mem_zip hy).1, hi⟩

/-- Predicates in source order have their patterns in order. -/
theorem pairwise_attach (sorted : raws.Pairwise (·.offset < ·.offset))
    (h : ∀ raw ∈ raws, ∃ i, patternAt? starts raw.offset = some i) :
    (attach starts raws predicates).Pairwise (·.1 ≤ ·.1) := by
  -- Attached predicates come from forms that stand later, and later forms have later patterns.
  induction raws generalizing predicates with
  | nil => simp [attach]
  | cons raw raws ih =>
    cases predicates with
    | nil => simp [attach]
    | cons predicate predicates =>
      obtain ⟨first, sorted⟩ := List.pairwise_cons.mp sorted
      obtain ⟨i, hi⟩ := h raw List.mem_cons_self
      rw [attach_cons hi]
      refine List.pairwise_cons.mpr
        ⟨fun x hx => ?_, ih sorted fun raw hraw => h raw (List.mem_cons_of_mem _ hraw)⟩
      obtain ⟨raw', hraw', hj⟩ := exists_of_mem_attach hx
      exact patternAt?_mono (Nat.le_of_lt (first raw' hraw')) hi hj

end Attach

/-- Predicates are read by validating them and attaching them, when every form has a pattern. -/
theorem readPredicates_eq {dialect : Regex.Dialect} {hash : Bytes → UInt64} {source : Bytes}
    {shape : QueryShape} {raws : List RawPredicate} (cache : RegexCache dialect hash)
    (h : ∀ raw ∈ raws, ∃ i, patternAt? shape.starts raw.offset = some i) :
    readPredicates source shape raws cache =
      ((validate source shape.captures raws cache).1.map (attach shape.starts raws),
        (validate source shape.captures raws cache).2) := by
  induction raws generalizing cache with
  | nil => rfl
  | cons raw raws ih =>
    -- The form has a pattern, so only its validation and the forms behind it can fail.
    obtain ⟨i, hi⟩ := h raw List.mem_cons_self
    have rest := fun cache => ih cache fun raw hraw => h raw (List.mem_cons_of_mem _ hraw)
    simp only [readPredicates, validate, hi]
    cases Predicate.ofRaw raw source (captureIndex? shape.captures) cache with
    | mk outcome cache' =>
      cases outcome with
      | error e => rfl
      | ok predicate =>
        simp only [rest]
        cases validate source shape.captures raws cache' with
        | mk outcome cache'' =>
          cases outcome with
          | error e => rfl
          | ok predicates => simp [Except.map, attach_cons hi]

/-! ## Lists in order of their keys -/

section Keys

variable {α : Type} {key : α → Nat} {l : List α}

theorem filter_lt_append_filter_eq (sorted : l.Pairwise (key · ≤ key ·)) {n : Nat}
    (bound : ∀ x ∈ l, key x < n + 1) :
    (l.filter fun x => key x < n) ++ (l.filter fun x => key x = n) = l := by
  induction l with
  | nil => rfl
  | cons x l ih =>
    obtain ⟨first, sorted⟩ := List.pairwise_cons.mp sorted
    have ih := ih sorted fun y hy => bound y (List.mem_cons_of_mem _ hy)
    by_cases lt : key x < n
    · simpa [lt, Nat.ne_of_lt lt] using ih
    · -- From here on all keys are the greatest.
      have greatest : ∀ y ∈ x :: l, key y = n := by
        intro y hy
        have upper := bound y hy
        rcases List.mem_cons.mp hy with rfl | hy
        · omega
        · have := first y hy
          omega
      rw [List.filter_eq_nil_iff.mpr fun y hy => by simp [greatest y hy],
        List.filter_eq_self.mpr fun y hy => by simp [greatest y hy], List.nil_append]

/-- A list in order of its keys is taken apart by key without loss. -/
theorem flatMap_filter_range (sorted : l.Pairwise (key · ≤ key ·)) {n : Nat}
    (bound : ∀ x ∈ l, key x < n) :
    ((List.range n).flatMap fun i => l.filter fun x => key x = i) = l := by
  induction n generalizing l with
  | zero =>
    cases l with
    | nil => rfl
    | cons x l => exact absurd (bound x List.mem_cons_self) (Nat.not_lt_zero _)
  | succ n ih =>
    have lower : ((List.range n).flatMap fun i => l.filter fun x => key x = i) =
        l.filter fun x => key x < n := by
      rw [← ih (sorted.filter fun x => key x < n) (by simp), List.flatMap_def, List.flatMap_def]
      refine congrArg List.flatten (List.map_congr_left fun i hi => ?_)
      rw [List.filter_filter]
      refine List.filter_congr fun x _ => ?_
      by_cases same : key x = i
      · simp [same, List.mem_range.mp hi]
      · simp [same]
    rw [List.range_succ, List.flatMap_append, List.flatMap_singleton, lower,
      filter_lt_append_filter_eq sorted bound]

end Keys

/-! ## Compiling -/

/-- What compiling gives once the engine has compiled the structural text. -/
theorem run_compile_eq {σ : Type} {dialect : Regex.Dialect} {hash : Bytes → UInt64}
    {engine : Engine σ} {grammar : Grammar} {source : Bytes} (cache : RegexCache dialect hash)
    {s s' : σ} {e : Extraction} {shape : QueryShape} (extracted : extract source = .ok e)
    (compiled : (engine.compile grammar.language e.structural).run s = (.ok shape, s')) :
    (PatternQuery.compile engine grammar source cache).run s =
      (PatternQuery.assemble grammar source e cache (.ok shape), s') := by
  simp only [PatternQuery.compile, extracted, StateT.run_bind, compiled]
  rfl

/-- With aligned patterns, only the validation of a form can refuse a query. -/
theorem assemble_eq {dialect : Regex.Dialect} {hash : Bytes → UInt64} (grammar : Grammar)
    {source : Bytes} (cache : RegexCache dialect hash) {e : Extraction} {shape : QueryShape}
    (extracted : extract source = .ok e) (aligned : Aligned source shape.starts) :
    PatternQuery.assemble grammar source e cache (.ok shape) =
      ((validate source shape.captures e.predicates cache).1.map fun predicates =>
          ⟨grammar, e.structural, shape, attach shape.starts e.predicates predicates⟩,
        (validate source shape.captures e.predicates cache).2) := by
  have hasPattern := aligned.exists_patternAt? extracted
  simp only [PatternQuery.assemble, readPredicates_eq cache hasPattern]
  cases validate source shape.captures e.predicates cache with
  | mk outcome cache' => cases outcome <;> rfl

section Attached

variable {source : Bytes} {e : Extraction} {q : PatternQuery} {predicates : List Predicate}

/-- The predicates of a pattern are those whose forms stand in its top-level form. -/
theorem predicates_eq_of_attached (extracted : extract source = .ok e)
    (aligned : Aligned source q.shape.starts)
    (attached : q.attached = attach q.shape.starts e.predicates predicates) (pattern : Nat) :
    q.predicates pattern = ((e.predicates.zip predicates).filter fun x =>
      StandsIn source q.shape.starts pattern x.1).map Prod.snd := by
  rw [PatternQuery.predicates, attached, filter_attach]
  refine congrArg (List.map Prod.snd) (List.filter_congr fun x hx => ?_)
  exact aligned.any_patternAt?_eq extracted (List.of_mem_zip hx).1 pattern

/-- Pattern by pattern, the predicates come in source order. -/
theorem flatMap_predicates_of_attached (extracted : extract source = .ok e)
    (aligned : Aligned source q.shape.starts)
    (attached : q.attached = attach q.shape.starts e.predicates predicates)
    (length : predicates.length = e.predicates.length) :
    (List.range q.patternCount).flatMap q.predicates = predicates := by
  have hasPattern := aligned.exists_patternAt? extracted
  have sorted : e.predicates.Pairwise (·.offset < ·.offset) := by
    obtain ⟨ps, reading, rfl⟩ := extract_eq_ok_iff.mp extracted
    exact reading.pairwise_formsOf.1
  have inOrder : q.attached.Pairwise (·.1.val ≤ ·.1.val) := by
    rw [attached]
    exact pairwise_attach sorted hasPattern
  have all := flatMap_filter_range inOrder (n := q.patternCount) fun x _ => x.1.isLt
  calc (List.range q.patternCount).flatMap q.predicates
      = ((List.range q.patternCount).flatMap fun i =>
          q.attached.filter (·.1.val = i)).map Prod.snd := by rw [List.map_flatMap]; rfl
    _ = q.attached.map Prod.snd := by rw [all]
    _ = predicates := by rw [attached, map_snd_attach length hasPattern]

/-- The pairs that a pattern sets are those that the forms in its top-level form spell. -/
theorem propertySettings_eq_of_attached (extracted : extract source = .ok e)
    (aligned : Aligned source q.shape.starts)
    (attached : q.attached = attach q.shape.starts e.predicates predicates)
    (length : predicates.length = e.predicates.length)
    (spelled : ∀ x ∈ e.predicates.zip predicates, x.2.setting? = x.1.setting?) (pattern : Nat) :
    q.propertySettings pattern =
      (e.predicates.filter fun raw => StandsIn source q.shape.starts pattern raw).filterMap
        RawPredicate.setting? := by
  have raws : (e.predicates.zip predicates).map Prod.fst = e.predicates :=
    List.map_fst_zip (Nat.le_of_eq length.symm)
  calc q.propertySettings pattern
      = (q.predicates pattern).filterMap Predicate.setting? := by
        refine List.filterMap_congr fun p _ => ?_
        cases p with
        | property kind key value => cases kind <;> rfl
        | _ => rfl
    _ = ((e.predicates.zip predicates).filter fun x =>
          StandsIn source q.shape.starts pattern x.1).filterMap fun x => x.2.setting? := by
        rw [predicates_eq_of_attached extracted aligned attached, List.filterMap_map]
        rfl
    _ = ((e.predicates.zip predicates).filter fun x =>
          StandsIn source q.shape.starts pattern x.1).filterMap fun x => x.1.setting? :=
        List.filterMap_congr fun x hx => spelled x (List.mem_filter.mp hx).1
    _ = _ := by
        conv => rhs; rw [← raws]
        rw [List.filter_map, List.filterMap_map]
        rfl

end Attached

/-- **The predicates of a query with aligned patterns.** The engine has compiled the structural
text, and the pattern starts agree with the top-level forms. Then each form stands in exactly one
pattern's top-level form, and only the validation of a form can refuse the query. Otherwise the
predicates of a pattern are the validated ones whose forms stand in its top-level form; pattern by
pattern they are all validated predicates in source order; a pattern past the end has none; and the
pairs that a pattern sets are those that its forms spell. -/
theorem compile_attaches_by_top_form {σ : Type} {dialect : Regex.Dialect} {hash : Bytes → UInt64}
    (engine : Engine σ) (grammar : Grammar) (source : Bytes) (cache : RegexCache dialect hash)
    (s s' : σ) (e : Extraction) (shape : QueryShape) (extracted : extract source = .ok e)
    (compiled : (engine.compile grammar.language e.structural).run s = (.ok shape, s'))
    (aligned : Aligned source shape.starts) :
    (∀ raw ∈ e.predicates, ∃ i, i < shape.starts.length ∧ StandsIn source shape.starts i raw ∧
      ∀ j, StandsIn source shape.starts j raw → j = i) ∧
    (∀ err, (validate source shape.captures e.predicates cache).1 = .error err →
      ((PatternQuery.compile engine grammar source cache).run s).1.1 = .error err) ∧
    (∀ err, ((PatternQuery.compile engine grammar source cache).run s).1.1 = .error err →
      err.kind ≠ .impossibleStructure) ∧
    ∀ predicates, (validate source shape.captures e.predicates cache).1 = .ok predicates →
      ∃ q, ((PatternQuery.compile engine grammar source cache).run s).1.1 = .ok q ∧
        q.patternCount = shape.starts.length ∧
        (∀ i, q.predicates i = ((e.predicates.zip predicates).filter fun x =>
          StandsIn source shape.starts i x.1).map Prod.snd) ∧
        (List.range q.patternCount).flatMap q.predicates = predicates ∧
        (∀ i, q.patternCount ≤ i → q.predicates i = []) ∧
        ∀ i, q.propertySettings i =
          (e.predicates.filter fun raw => StandsIn source shape.starts i raw).filterMap
            RawPredicate.setting? := by
  rw [run_compile_eq cache extracted compiled, assemble_eq grammar cache extracted aligned]
  refine ⟨fun raw hraw => ?_, fun err h => ?_, fun err h => ?_, fun predicates h => ?_⟩
  · -- A pattern starts at the form's own top-level form, and no other pattern holds the form.
    obtain ⟨i, hi⟩ := aligned.exists_standsIn extracted hraw
    have at_i := (aligned.patternAt?_eq_some_iff extracted hraw).mpr hi
    exact ⟨i, i.isLt, hi, fun j hj => aligned.standsIn_unique extracted hraw at_i hj⟩
  · simp only [h, Except.map]
  · -- Attaching does not fail, so the error is the validation's.
    cases hv : validate source shape.captures e.predicates cache with
    | mk outcome cache' =>
      cases outcome with
      | ok predicates => simp [hv, Except.map] at h
      | error err' =>
        simp only [hv, Except.map, Except.error.injEq] at h
        exact h ▸ kind_ne_of_validate_eq hv
  · have validated : validate source shape.captures e.predicates cache =
        (.ok predicates, (validate source shape.captures e.predicates cache).2) := by rw [← h]
    have length := length_of_validate_eq validated
    refine ⟨⟨grammar, e.structural, shape, attach shape.starts e.predicates predicates⟩,
      by simp only [h, Except.map], rfl, ?_, ?_, ?_, ?_⟩
    · exact predicates_eq_of_attached extracted aligned rfl
    · exact flatMap_predicates_of_attached extracted aligned rfl length
    · exact fun i past => PatternQuery.predicates_eq_nil_of_le _ past
    · exact propertySettings_eq_of_attached extracted aligned rfl length
        (setting?_of_validate_eq validated)

/-- An engine that makes one shape of every structural query, and finds nothing. -/
def oneShapeEngine (shape : QueryShape) : Engine Unit :=
  { Engine.absent with compile := fun _ _ => pure (.ok shape) }

theorem compile_attaches_second_pattern :
    ∃ e q, extract (Bytes.ofText "(x)((y)(#set! k))") = .ok e ∧
      Aligned (Bytes.ofText "(x)((y)(#set! k))") [0, 3] ∧
      ((PatternQuery.compile (oneShapeEngine ⟨[], [0, 3], [[], []]⟩) default
        (Bytes.ofText "(x)((y)(#set! k))")
        (⟨[], 256⟩ : RegexCache .standard fun _ => 0)).run ()).1.1 =
          .ok q ∧
      (List.range 2).flatMap q.predicates = [.property .set (Bytes.ofText "k") none] ∧
      q.propertySettings 0 = [] ∧ q.propertySettings 1 = [(Bytes.ofText "k", none)] := by
  have extracted : extract (Bytes.ofText "(x)((y)(#set! k))") =
      .ok ⟨Bytes.ofText "(x)((y)         )",
        [⟨7, some (Bytes.ofText "set!"), [.literal (Bytes.ofText "k") 14]⟩]⟩ := by
    decide +kernel
  have aligned : Aligned (Bytes.ofText "(x)((y)(#set! k))") [0, 3] :=
    ⟨by decide, by decide +kernel, by decide +kernel⟩
  obtain ⟨-, -, -, accepted⟩ := compile_attaches_by_top_form
    (oneShapeEngine ⟨[], [0, 3], [[], []]⟩) default _
    (⟨[], 256⟩ : RegexCache .standard fun _ => 0) () () _ _
    extracted rfl aligned
  obtain ⟨q, compiled, count, -, all, -, settings⟩ := accepted
    [.property .set (Bytes.ofText "k") none] (by
      simp [validate, Predicate.ofRaw, RawPredicate.resolveAll, Argument.resolve,
        Operator.ofName_set, RawPredicate.toProperty])
  rw [count] at all
  refine ⟨_, q, extracted, aligned, compiled, all, ?_, ?_⟩
  · rw [settings]
    decide +kernel
  · rw [settings]
    decide +kernel

end SyntaxForest.Query
