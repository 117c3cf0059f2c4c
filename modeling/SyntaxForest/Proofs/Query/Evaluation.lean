import Mathlib.Data.List.Sort
import Mathlib.Logic.Equiv.Basic
import SyntaxForest.Proofs.Query.Filtering

/-!
# Laws of evaluation

A predicate is evaluated from the texts of the captures that it mentions, each capture's texts in
match order. Everything else about the captures is out of its sight: the order in which occurrences
of two captures stand to each other, and the captures that it does not mention.

Negation stands in two places. A comparison of two captures is negated as a whole, so that of the
predicate and its negation exactly one holds. A test of one capture is negated for each occurrence
before all of them are asked, so both hold where there is no occurrence and neither does where the
occurrences disagree.

## Main definitions

* `Predicate.mentioned`: the captures whose texts a predicate reads
* `Test`: what a predicate asks of each occurrence of one capture
* `Reordering`: a match with its captures in another order, the occurrences of each in their own

## Main results

* `Predicate.holds_congr`: a predicate is a function of the texts of the captures that it mentions
* `Reordering.filter_eq`: a reordering keeps the occurrences of each capture
* `Predicate.evaluation_laws`: operands, negation and order
-/

namespace SyntaxForest.Query

/-! ## What a predicate reads -/

/-- The captures whose texts a predicate reads. -/
def Predicate.mentioned : Predicate → List Nat
  | .eq left (.capture right) _ => [left, right]
  | .eq left (.literal _) _ => [left]
  | .isMatch capture _ _ => [capture]
  | .property _ _ _ | .unknown _ _ => []

/-- **A predicate is a function of the texts of the captures that it mentions.** -/
theorem Predicate.holds_congr {p : Predicate} {captures captures' : List Capture}
    {source source' : Bytes}
    (agree : ∀ i ∈ p.mentioned, textsOf i captures' source' = textsOf i captures source) :
    p.holds captures' source' = p.holds captures source := by
  cases p with
  | eq left right negated =>
    cases right with
    | capture right =>
      have first := agree left List.mem_cons_self
      have second := agree right (List.mem_cons_of_mem left List.mem_cons_self)
      simp only [holds, first, second]
    | literal value => simp only [holds, agree left List.mem_cons_self]
  | isMatch capture regex negated => simp only [holds, agree capture List.mem_cons_self]
  | property kind key value => rfl
  | unknown operator arguments => rfl

/-! ## Reorderings -/

/-- The captures `after` are those `before` in another order, in which the occurrences of each
capture stand as they did. -/
structure Reordering (before after : List Capture) where
  /-- Where each capture goes. -/
  place : Fin before.length ≃ Fin after.length
  get_place : ∀ i, after.get (place i) = before.get i
  place_lt : ∀ i j, i < j → (before.get i).index = (before.get j).index → place i < place j

/-- The places where a capture occurs, in match order. -/
def placesOf (index : Nat) (captures : List Capture) : List (Fin captures.length) :=
  (List.finRange captures.length).filter fun i => (captures.get i).index = index

section Reorderings

variable {before after : List Capture} {index : Nat}

theorem map_get_placesOf (index : Nat) (captures : List Capture) :
    (placesOf index captures).map captures.get = captures.filter (·.index = index) := by
  conv_rhs => rw [← List.map_get_finRange captures, List.filter_map]
  rfl

theorem mem_placesOf {captures : List Capture} {i : Fin captures.length} :
    i ∈ placesOf index captures ↔ (captures.get i).index = index := by
  simp [placesOf]

theorem pairwise_placesOf (index : Nat) (captures : List Capture) :
    (placesOf index captures).Pairwise (· < ·) :=
  (List.sortedLT_finRange _).pairwise.filter _

/-- The places of a capture move to its places in the other order, the first to the first. -/
theorem Reordering.map_placesOf (r : Reordering before after) (index : Nat) :
    (placesOf index before).map r.place = placesOf index after := by
  -- Both lists increase, so it is enough that they have the same members.
  refine List.Pairwise.eq_of_mem_iff ?_ (pairwise_placesOf index after) fun j => ?_
  · refine List.pairwise_map.mpr ((pairwise_placesOf index before).imp_of_mem ?_)
    intro i j hi hj lt
    exact r.place_lt i j lt ((mem_placesOf.mp hi).trans (mem_placesOf.mp hj).symm)
  · rw [List.mem_map, mem_placesOf]
    constructor
    · rintro ⟨i, hi, rfl⟩
      rw [r.get_place]
      exact mem_placesOf.mp hi
    · intro hj
      obtain ⟨i, rfl⟩ := r.place.surjective j
      rw [r.get_place] at hj
      exact ⟨i, mem_placesOf.mpr hj, rfl⟩

theorem Reordering.filter_eq (r : Reordering before after) (index : Nat) :
    after.filter (·.index = index) = before.filter (·.index = index) := by
  calc after.filter (·.index = index)
      = (placesOf index after).map after.get := (map_get_placesOf index after).symm
    _ = (placesOf index before).map (after.get ∘ r.place) := by
        rw [← r.map_placesOf, List.map_map]
    _ = (placesOf index before).map before.get :=
        List.map_congr_left fun i _ => r.get_place i
    _ = before.filter (·.index = index) := map_get_placesOf index before

theorem Reordering.textsOf_eq (r : Reordering before after) (index : Nat) (source : Bytes) :
    textsOf index after source = textsOf index before source := by
  rw [textsOf, textsOf, r.filter_eq]

end Reorderings

/-! ## Tests of one capture -/

/-- What a predicate asks of each occurrence of one capture. -/
inductive Test where
  /-- It spans this text. -/
  | isText (value : Bytes)
  /-- The expression is found in it. -/
  | finds (regex : Regex)

namespace Test

/-- A text passes the test. -/
def Passes : Test → Bytes → Prop
  | isText value, text => text = value
  | finds regex, text => regex.isMatch text = true

/-- The predicate that tests every occurrence of a capture, or its negation. -/
def predicate (t : Test) (capture : Nat) (negated : Bool) : Predicate :=
  match t with
  | isText value => .eq capture (.literal value) negated
  | finds regex => .isMatch capture regex negated

/-- The occurrences of a capture disagree: one passes and another one fails. -/
def Splits (t : Test) (index : Nat) (captures : List Capture) (source : Bytes) : Prop :=
  (∃ c ∈ captures, c.index = index ∧ t.Passes (c.text source)) ∧
    ∃ c ∈ captures, c.index = index ∧ ¬ t.Passes (c.text source)

variable (t : Test) {index : Nat} {captures : List Capture} {source : Bytes}

/-- Negation stands inside: it is every occurrence that has to fail. -/
theorem holds_predicate_iff {negated : Bool} :
    (t.predicate index negated).holds captures source = true ↔
      ∀ c ∈ captures, c.index = index → (t.Passes (c.text source) ↔ negated = false) := by
  have verdict_iff (holds : Bool) :
      Predicate.verdict negated holds = true ↔ (holds = true ↔ negated = false) := by
    cases negated <;> cases holds <;> simp [Predicate.verdict]
  cases t with
  | isText value =>
    simp only [predicate, Predicate.holds, all_textsOf_iff, verdict_iff, decide_eq_true_eq]
    rfl
  | finds regex =>
    simp only [predicate, Predicate.holds, all_textsOf_iff, verdict_iff]
    rfl

theorem holds_plain_iff :
    (t.predicate index false).holds captures source = true ↔
      ∀ c ∈ captures, c.index = index → t.Passes (c.text source) := by
  simp only [holds_predicate_iff, iff_true]

theorem holds_negated_iff :
    (t.predicate index true).holds captures source = true ↔
      ∀ c ∈ captures, c.index = index → ¬ t.Passes (c.text source) := by
  simp only [holds_predicate_iff, Bool.true_eq_false, iff_false]

/-- A test and its negation both hold exactly where there is nothing to ask. -/
theorem both_hold_iff :
    (t.predicate index false).holds captures source = true ∧
      (t.predicate index true).holds captures source = true ↔ ¬ Occurs index captures := by
  rw [holds_plain_iff, holds_negated_iff]
  constructor
  · rintro ⟨passes, fails⟩ ⟨c, hc, hi⟩
    exact fails c hc hi (passes c hc hi)
  · intro absent
    exact ⟨fun c hc hi => absurd ⟨c, hc, hi⟩ absent, fun c hc hi => absurd ⟨c, hc, hi⟩ absent⟩

/-- Neither holds exactly where the occurrences disagree. -/
theorem neither_holds_iff :
    (t.predicate index false).holds captures source = false ∧
      (t.predicate index true).holds captures source = false ↔ t.Splits index captures source := by
  simp only [← Bool.not_eq_true, holds_plain_iff, holds_negated_iff, not_forall, not_not,
    exists_prop, Splits]
  exact and_comm

/-- Where there is an occurrence and no two disagree, exactly one holds. -/
theorem holds_plain_eq_not (occurs : Occurs index captures)
    (agree : ¬ t.Splits index captures source) :
    (t.predicate index false).holds captures source =
      !(t.predicate index true).holds captures source := by
  have notBoth : ¬ ((t.predicate index false).holds captures source = true ∧
      (t.predicate index true).holds captures source = true) :=
    mt t.both_hold_iff.mp (not_not.mpr occurs)
  have notNeither := mt t.neither_holds_iff.mp agree
  cases plain : (t.predicate index false).holds captures source with
  | false =>
    cases negated : (t.predicate index true).holds captures source with
    | false => exact absurd ⟨plain, negated⟩ notNeither
    | true => rfl
  | true =>
    cases negated : (t.predicate index true).holds captures source with
    | false => rfl
    | true => exact absurd ⟨plain, negated⟩ notBoth

end Test

/-! ## The laws -/

namespace Predicate

variable {captures : List Capture} {source : Bytes} {left right : Nat}

theorem holds_eq_symm {negated : Bool} :
    (eq left (.capture right) negated).holds captures source =
      (eq right (.capture left) negated).holds captures source := by
  simp only [holds]
  cases (textsOf left captures source).head? with
  | none => cases (textsOf right captures source).head? <;> rfl
  | some a =>
    cases (textsOf right captures source).head? with
    | none => rfl
    | some b => simp only [eq_comm]

/-- Negation stands outside: whether or not both captures occur, exactly one of the two holds. -/
theorem holds_eq_negated :
    (eq left (.capture right) true).holds captures source =
      !(eq left (.capture right) false).holds captures source := by
  simp only [holds]
  cases (textsOf left captures source).head? with
  | none => rfl
  | some a =>
    cases (textsOf right captures source).head? with
    | none => rfl
    | some b => simp only [verdict, Bool.bne_true, Bool.bne_false]

/-- **Laws of evaluation.** A comparison of two captures is symmetric, and exactly one of it and its
negation holds, whether or not the captures occur. A test of one capture and its negation both hold
if the capture does not occur, neither holds if one of its occurrences passes and another one fails,
and exactly one holds otherwise. No predicate sees in what order the occurrences of two captures
stand to each other. -/
theorem evaluation_laws (captures : List Capture) (source : Bytes) :
    (∀ left right negated, (eq left (.capture right) negated).holds captures source =
      (eq right (.capture left) negated).holds captures source) ∧
    (∀ left right, (eq left (.capture right) true).holds captures source =
      !(eq left (.capture right) false).holds captures source) ∧
    (∀ (t : Test) (index : Nat),
      ((t.predicate index false).holds captures source = true ∧
        (t.predicate index true).holds captures source = true ↔ ¬ Occurs index captures) ∧
      ((t.predicate index false).holds captures source = false ∧
        (t.predicate index true).holds captures source = false ↔
          t.Splits index captures source) ∧
      (Occurs index captures → ¬ t.Splits index captures source →
        (t.predicate index false).holds captures source =
          !(t.predicate index true).holds captures source)) ∧
    ∀ after, Reordering captures after →
      ∀ p : Predicate, p.holds after source = p.holds captures source := by
  refine ⟨fun left right negated => holds_eq_symm, fun left right => holds_eq_negated,
    fun t index => ⟨t.both_hold_iff, t.neither_holds_iff, t.holds_plain_eq_not⟩, ?_⟩
  intro after r p
  exact holds_congr fun i _ => r.textsOf_eq i source

/-- A capture of a node over these bytes. -/
def capturing (index start stop : Nat) : Capture :=
  ⟨index, .mk ⟨0, "word", true, false, false, ⟨start, stop, .origin, .origin⟩, none⟩ []⟩

/-- Two occurrences of the first capture that disagree, one of the second between them, and none of
a third. The second capture moves to the front. -/
theorem evaluation_laws_of_disagreement :
    let captures := [capturing 0 0 1, capturing 1 1 2, capturing 0 2 3]
    let after := [capturing 1 1 2, capturing 0 0 1, capturing 0 2 3]
    let source := Bytes.ofText "xyz"
    let x := Test.isText (Bytes.ofText "x")
    (x.predicate 0 false).holds captures source = false ∧
      (x.predicate 0 true).holds captures source = false ∧
      (x.predicate 2 false).holds captures source = true ∧
      (x.predicate 2 true).holds captures source = true ∧
      (x.predicate 1 false).holds captures source = !(x.predicate 1 true).holds captures source ∧
      ∀ p : Predicate, p.holds after source = p.holds captures source := by
  intro captures after source x
  obtain ⟨-, -, tests, order⟩ := evaluation_laws captures source
  have splits : x.Splits 0 captures source := by
    refine ⟨⟨capturing 0 0 1, by simp [captures], rfl, ?_⟩,
      capturing 0 2 3, by simp [captures], rfl, ?_⟩
    · show (capturing 0 0 1).text source = Bytes.ofText "x"
      decide
    · show (capturing 0 2 3).text source ≠ Bytes.ofText "x"
      decide
  have absent : ¬ Occurs 2 captures := by simp [Occurs, captures, capturing]
  have occurs : Occurs 1 captures := ⟨capturing 1 1 2, by simp [captures], rfl⟩
  have agree : ¬ x.Splits 1 captures source := by
    simp [Test.Splits, captures, capturing]
  let front : Reordering captures after :=
    { place := Equiv.swap (0 : Fin 3) 1
      get_place := Fin.cases rfl (Fin.cases rfl (Fin.cases rfl fun i => i.elim0))
      place_lt := by
        show ∀ i j : Fin 3, i < j → (captures.get i).index = (captures.get j).index →
          Equiv.swap (0 : Fin 3) 1 i < Equiv.swap (0 : Fin 3) 1 j
        dsimp only [captures]
        decide }
  exact ⟨((tests x 0).2.1.mpr splits).1, ((tests x 0).2.1.mpr splits).2,
    ((tests x 2).1.mpr absent).1, ((tests x 2).1.mpr absent).2, (tests x 1).2.2 occurs agree,
    order after front⟩

end Predicate

end SyntaxForest.Query
