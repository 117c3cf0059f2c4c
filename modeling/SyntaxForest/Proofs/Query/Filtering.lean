import SyntaxForest.Query.Match

/-!
# The verdict on a match

The predicates of a pattern ask about the occurrences of their captures in three ways. A comparison
of two captures looks at the first occurrence of each; a comparison with a string and a test for a
regular expression look at all occurrences; properties and unknown predicates look at none. The
rules are stated here apart from the evaluation, and a match is accepted exactly when they hold.

## Main definitions

* `Capture.Spans`: the text that a capture spans, by a split of the source
* `FirstOccurrence`, `Occurs`: a capture's first place in a match, and whether it has any
* `Predicate.Holds`: the rules of the predicates

## Main results

* `Predicate.holds_iff`: the evaluation of a predicate decides its rules
* `PatternQuery.filter_accepts_iff_holds`: the verdict on a match, and the match behind it
-/

namespace SyntaxForest

/-- The capture spans `text`: the part of the source between its ends, or nothing when they do not
enclose a part of the source. -/
inductive Capture.Spans (source : Bytes) (c : Capture) : Bytes → Prop
  | inside {before text after : Bytes} (split : source = before ++ text ++ after)
      (starts : c.node.range.startByte = before.length)
      (ends : c.node.range.endByte = before.length + text.length) : Spans source c text
  | outside (h : ¬ (c.node.range.startByte ≤ c.node.range.endByte ∧
      c.node.range.endByte ≤ source.length)) : Spans source c []

namespace Capture.Spans

variable {source text : Bytes} {c : Capture}

theorem text_eq (h : c.Spans source text) : c.text source = text := by
  cases h with
  | @inside before text after split starts ends =>
    have bound : c.node.range.endByte ≤ source.length := by simp [split, ends]
    simp only [Capture.text, Range.text]
    rw [if_pos ⟨by omega, bound⟩, starts, ends, split]
    simp
  | outside h =>
    simp only [Capture.text, Range.text]
    exact if_neg h

theorem of_text (source : Bytes) (c : Capture) : c.Spans source (c.text source) := by
  simp only [Capture.text, Range.text]
  split
  next h =>
    obtain ⟨order, bound⟩ := h
    -- The part before the capture and the part behind it complete the split.
    have split : source = source.take c.node.range.startByte ++
        (source.drop c.node.range.startByte).take
          (c.node.range.endByte - c.node.range.startByte) ++
        source.drop c.node.range.endByte := by
      have tail : source.drop c.node.range.endByte = (source.drop c.node.range.startByte).drop
          (c.node.range.endByte - c.node.range.startByte) := by
        rw [List.drop_drop, Nat.add_sub_cancel' order]
      rw [tail, List.append_assoc, List.take_append_drop, List.take_append_drop]
    refine .inside split ?_ ?_
    · rw [List.length_take]
      omega
    · simp only [List.length_take, List.length_drop]
      omega
  next h => exact .outside h

/-- Every capture spans one text. -/
theorem iff_text_eq : c.Spans source text ↔ c.text source = text := by
  constructor
  · exact text_eq
  · rintro rfl
    exact of_text source c

end Capture.Spans

namespace Query

/-! ## Occurrences -/

/-- `c` is the first occurrence of a capture in match order. -/
def FirstOccurrence (index : Nat) (captures : List Capture) (c : Capture) : Prop :=
  c.index = index ∧
    ∃ before after, captures = before ++ c :: after ∧ ∀ d ∈ before, d.index ≠ index

/-- A capture occurs in a match. -/
def Occurs (index : Nat) (captures : List Capture) : Prop := ∃ c ∈ captures, c.index = index

section Occurrences

variable {index : Nat} {captures : List Capture} {source text : Bytes}

theorem head?_textsOf_eq_some_iff :
    (textsOf index captures source).head? = some text ↔
      ∃ c, FirstOccurrence index captures c ∧ c.Spans source text := by
  simp only [textsOf, List.head?_map, List.head?_filter, Option.map_eq_some_iff,
    List.find?_eq_some_iff_append, FirstOccurrence, Capture.Spans.iff_text_eq]
  simp

theorem head?_textsOf_eq_none_iff :
    (textsOf index captures source).head? = none ↔ ¬ Occurs index captures := by
  simp [textsOf, Occurs]

theorem all_textsOf_iff {p : Bytes → Bool} :
    (textsOf index captures source).all p = true ↔
      ∀ c ∈ captures, c.index = index → p (c.text source) = true := by
  simp only [textsOf, List.all_map, List.all_eq_true, List.mem_filter, Function.comp_apply,
    decide_eq_true_eq, and_imp]

end Occurrences

/-! ## The rules of the predicates -/

/-- The rules by which a predicate holds of the captures of a match. -/
inductive Predicate.Holds (captures : List Capture) (source : Bytes) : Predicate → Prop
  /-- The first occurrences of two captures span the same text. -/
  | same {left right : Nat} {a b : Capture} {text : Bytes}
      (first : FirstOccurrence left captures a) (second : FirstOccurrence right captures b)
      (spanned : a.Spans source text) (spanned' : b.Spans source text) :
      Holds captures source (.eq left (.capture right) false)
  /-- The first occurrences of two captures span different texts. -/
  | different {left right : Nat} {a b : Capture} {text text' : Bytes}
      (first : FirstOccurrence left captures a) (second : FirstOccurrence right captures b)
      (spanned : a.Spans source text) (spanned' : b.Spans source text') (ne : text ≠ text') :
      Holds captures source (.eq left (.capture right) true)
  /-- One of two captures does not occur, so that there is nothing to compare. -/
  | absent {left right : Nat} (h : ¬ Occurs left captures ∨ ¬ Occurs right captures) :
      Holds captures source (.eq left (.capture right) true)
  /-- Every occurrence spans the string. -/
  | everyIs {left : Nat} {value : Bytes}
      (h : ∀ c ∈ captures, c.index = left → c.Spans source value) :
      Holds captures source (.eq left (.literal value) false)
  /-- No occurrence spans the string. -/
  | noneIs {left : Nat} {value : Bytes}
      (h : ∀ c ∈ captures, c.index = left → ¬ c.Spans source value) :
      Holds captures source (.eq left (.literal value) true)
  /-- The expression is found in every occurrence. -/
  | everyMatches {capture : Nat} {regex : Regex}
      (h : ∀ c ∈ captures, c.index = capture →
        ∃ text, c.Spans source text ∧ regex.isMatch text = true) :
      Holds captures source (.isMatch capture regex false)
  /-- The expression is found in no occurrence. -/
  | noneMatches {capture : Nat} {regex : Regex}
      (h : ∀ c ∈ captures, c.index = capture →
        ∃ text, c.Spans source text ∧ regex.isMatch text = false) :
      Holds captures source (.isMatch capture regex true)
  /-- A property always holds. -/
  | property {kind : PropertyKind} {key : Bytes} {value : Option Bytes} :
      Holds captures source (.property kind key value)
  /-- A predicate that is not known always holds. -/
  | unknown {operator : Bytes} {arguments : List Operand} :
      Holds captures source (.unknown operator arguments)

namespace Predicate

variable {captures : List Capture} {source : Bytes}

/-- A comparison of two captures, by its rules. -/
theorem holds_eq_capture_iff {left right : Nat} {negated : Bool} :
    (Predicate.eq left (.capture right) negated).holds captures source = true ↔
      (Predicate.eq left (.capture right) negated).Holds captures source := by
  have firstText (index : Nat) (text : Bytes) :=
    @head?_textsOf_eq_some_iff index captures source text
  have noText (index : Nat) := @head?_textsOf_eq_none_iff index captures source
  simp only [holds]
  constructor
  · intro h
    split at h
    next s t hs ht =>
      obtain ⟨a, ha, hs⟩ := (firstText left s).mp hs
      obtain ⟨b, hb, ht⟩ := (firstText right t).mp ht
      cases negated with
      | false =>
        have eq : s = t := by simpa [verdict] using h
        exact .same ha hb hs (eq ▸ ht)
      | true =>
        have ne : s ≠ t := by simpa [verdict] using h
        exact .different ha hb hs ht ne
    next missing =>
      -- The evaluation gives `negated` itself here, so that the predicate is negated.
      subst h
      refine .absent ?_
      rw [← noText, ← noText]
      cases hs : (textsOf left captures source).head? with
      | none => exact .inl rfl
      | some s =>
        cases ht : (textsOf right captures source).head? with
        | none => exact .inr rfl
        | some t => exact absurd ht (missing s t hs)
  · intro h
    cases h with
    | same first second spanned spanned' =>
      simp [(firstText left _).mpr ⟨_, first, spanned⟩,
        (firstText right _).mpr ⟨_, second, spanned'⟩, verdict]
    | different first second spanned spanned' ne =>
      simp [(firstText left _).mpr ⟨_, first, spanned⟩,
        (firstText right _).mpr ⟨_, second, spanned'⟩, verdict, ne]
    | absent h =>
      rcases h with h | h
      · simp [(noText left).mpr h]
      · simp [(noText right).mpr h]

/-- A comparison with a string, by its rules. -/
theorem holds_eq_literal_iff {left : Nat} {value : Bytes} {negated : Bool} :
    (Predicate.eq left (.literal value) negated).holds captures source = true ↔
      (Predicate.eq left (.literal value) negated).Holds captures source := by
  simp only [holds, all_textsOf_iff]
  cases negated with
  | false =>
    constructor
    · intro h
      exact .everyIs fun c hc hi =>
        Capture.Spans.iff_text_eq.mpr (by simpa [verdict] using h c hc hi)
    · intro holds c hc hi
      cases holds with
      | everyIs h => simp [verdict, (h c hc hi).text_eq]
  | true =>
    constructor
    · intro h
      exact .noneIs fun c hc hi spanned =>
        absurd spanned.text_eq (by simpa [verdict] using h c hc hi)
    · intro holds c hc hi
      cases holds with
      | noneIs h =>
        have ne : c.text source ≠ value := fun eq =>
          h c hc hi (Capture.Spans.iff_text_eq.mpr eq)
        simp [verdict, ne]

/-- A test for a regular expression, by its rules. -/
theorem holds_isMatch_iff {capture : Nat} {regex : Regex} {negated : Bool} :
    (Predicate.isMatch capture regex negated).holds captures source = true ↔
      (Predicate.isMatch capture regex negated).Holds captures source := by
  simp only [holds, all_textsOf_iff]
  cases negated with
  | false =>
    constructor
    · intro h
      exact .everyMatches fun c hc hi =>
        ⟨c.text source, .of_text source c, by simpa [verdict] using h c hc hi⟩
    · intro holds c hc hi
      cases holds with
      | everyMatches h =>
        obtain ⟨text, spanned, found⟩ := h c hc hi
        simp [verdict, spanned.text_eq, found]
  | true =>
    constructor
    · intro h
      exact .noneMatches fun c hc hi =>
        ⟨c.text source, .of_text source c, by simpa [verdict] using h c hc hi⟩
    · intro holds c hc hi
      cases holds with
      | noneMatches h =>
        obtain ⟨text, spanned, notFound⟩ := h c hc hi
        simp [verdict, spanned.text_eq, notFound]

/-- The evaluation of a predicate decides its rules. -/
theorem holds_iff {p : Predicate} :
    p.holds captures source = true ↔ p.Holds captures source := by
  cases p with
  | eq left right negated =>
    cases right with
    | capture right => exact holds_eq_capture_iff
    | literal value => exact holds_eq_literal_iff
  | isMatch capture regex negated => exact holds_isMatch_iff
  | property kind key value => exact ⟨fun _ => .property, fun _ => rfl⟩
  | unknown operator arguments => exact ⟨fun _ => .unknown, fun _ => rfl⟩

instance (p : Predicate) : Decidable (p.Holds captures source) := decidable_of_iff _ holds_iff

end Predicate

end Query

/-! ## Filtering -/

namespace PatternQuery

open Query

variable (q : PatternQuery) (m : QueryMatch) (source : Bytes)

theorem satisfies_iff_holds :
    q.satisfies m source = true ↔ ∀ p ∈ q.predicates m.pattern, p.Holds m.captures source := by
  simp only [satisfies, List.all_eq_true, Predicate.holds_iff]

theorem filter_isAccepted : (q.filter m source).isAccepted = q.satisfies m source := by
  unfold filter
  split
  next h => exact h.symm
  next h => exact ((Bool.not_eq_true _).mp h).symm

/-- **A match is accepted exactly when the rules of its pattern's predicates hold.** A pattern past
the end has no predicates. An accepted match keeps its captures in order and a rejected one has
none; number and pattern stay. The outcome depends on the set of predicates alone, not on their
order or on repetitions. -/
theorem filter_accepts_iff_holds :
    ((q.filter m source).isAccepted = true ↔
      ∀ p ∈ q.predicates m.pattern, p.Holds m.captures source) ∧
    (q.patternCount ≤ m.pattern → q.predicates m.pattern = []) ∧
    (q.filter m source).isRejected = !(q.filter m source).isAccepted ∧
    ((q.filter m source).isAccepted = true →
      (q.filter m source).captures = m.captures ∧
      (q.filter m source).intoCaptures = some m.captures) ∧
    ((q.filter m source).isAccepted = false →
      (q.filter m source).captures = [] ∧ (q.filter m source).intoCaptures = none) ∧
    (q.filter m source).id = m.id ∧ (q.filter m source).pattern = m.pattern ∧
    ∀ q' : PatternQuery,
      (∀ p, p ∈ q'.predicates m.pattern ↔ p ∈ q.predicates m.pattern) →
      q'.filter m source = q.filter m source := by
  refine ⟨?_, q.predicates_eq_nil_of_le, rfl, ?_, ?_, ?_, ?_, ?_⟩
  · rw [filter_isAccepted, satisfies_iff_holds]
  · intro accepted
    rw [filter_isAccepted] at accepted
    simp [filter, accepted, FilteredMatch.intoCaptures]
  · intro rejected
    rw [filter_isAccepted] at rejected
    simp [filter, rejected, FilteredMatch.intoCaptures]
  · unfold filter
    split <;> rfl
  · unfold filter
    split <;> rfl
  -- The verdict asks for all predicates, so it cannot tell lists with the same members apart.
  · intro q' sameSet
    have sameVerdict : q'.satisfies m source = q.satisfies m source := by
      rw [Bool.eq_iff_iff, satisfies_iff_holds, satisfies_iff_holds]
      simp only [sameSet]
    simp only [filter, sameVerdict]

end PatternQuery

end SyntaxForest
