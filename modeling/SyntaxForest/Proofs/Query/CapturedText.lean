import SyntaxForest.Proofs.Query.Evaluation
import SyntaxForest.Proofs.Text.Replacement

/-!
# The text that filtering reads

The verdict on a match depends on the source only through the bytes of the captures that its
predicates mention. Two sources that agree there give one verdict, however they differ elsewhere and
in length. An edit behind all of these captures leaves their bytes where they are, so the verdict on
a match outlives it.

## Main definitions

* `Range.AgreeOn`: two texts have the same bytes in a range
* `PatternQuery.Reads`: a predicate of the match's pattern mentions a capture

## Main results

* `Range.text_congr`: texts that agree on a range have one text there
* `TextEdit.agreeOn_of_replace`: a replacement changes nothing before it
* `PatternQuery.filter_reads_captured_text`: the verdict of two sources that agree, and of an edit
-/

namespace SyntaxForest

/-! ## Agreement on a range -/

/-- Two texts have the same bytes in the range. Where one ends, so does the other. -/
def Range.AgreeOn (r : Range) (a b : Bytes) : Prop :=
  ∀ i : Nat, r.startByte ≤ i → i < r.endByte → a[i]? = b[i]?

namespace Range

variable {r : Range} {a b : Bytes}

theorem AgreeOn.symm (h : r.AgreeOn a b) : r.AgreeOn b a :=
  fun i starts ends => (h i starts ends).symm

/-- A text that reaches to the end of a range takes any that agrees with it along. -/
theorem AgreeOn.endByte_le (h : r.AgreeOn a b) (order : r.startByte < r.endByte)
    (inside : r.endByte ≤ a.length) : r.endByte ≤ b.length := by
  have last := h (r.endByte - 1) (by omega) (by omega)
  rw [List.getElem?_eq_getElem (by omega)] at last
  have := (List.getElem?_eq_some_iff.mp last.symm).1
  omega

/-- Texts that agree on a range have one text there. -/
theorem text_congr (h : r.AgreeOn a b) : r.text a = r.text b := by
  by_cases order : r.startByte < r.endByte
  · have reaches : r.endByte ≤ a.length ↔ r.endByte ≤ b.length :=
      ⟨h.endByte_le order, h.symm.endByte_le order⟩
    simp only [text, reaches]
    split
    · refine List.ext_getElem? fun k => ?_
      simp only [List.getElem?_take, List.getElem?_drop]
      split
      · exact h (r.startByte + k) (by omega) (by omega)
      · rfl
    · rfl
  -- An empty range has no text, and nor has one that ends before it begins.
  · have none : r.endByte - r.startByte = 0 := by omega
    simp only [text, none, List.take_zero, ite_self]

end Range

/-- A replacement changes nothing before it. -/
theorem TextEdit.agreeOn_of_replace {old new newText : Bytes} {start oldEnd : Nat} {e : TextEdit}
    (h : replace old start oldEnd newText = .ok (e, new)) {r : Range}
    (before : r.endByte ≤ start) : r.AgreeOn old new := by
  obtain ⟨⟨order, inside⟩, rfl, -⟩ := replace_eq_ok_iff.mp h
  intro i _ ends
  have kept : i < (old.take start).length := by
    rw [List.length_take]
    omega
  rw [List.append_assoc, List.getElem?_append_left kept, List.getElem?_take_of_lt (by omega)]

namespace Query

theorem textsOf_congr {index : Nat} {captures : List Capture} {source source' : Bytes}
    (agree : ∀ c ∈ captures, c.index = index → c.node.range.AgreeOn source source') :
    textsOf index captures source' = textsOf index captures source := by
  refine List.map_congr_left fun c hc => ?_
  obtain ⟨member, isIndex⟩ := List.mem_filter.mp hc
  exact (Range.text_congr (agree c member (by simpa using isIndex))).symm

end Query

namespace PatternQuery

variable (q : PatternQuery) (m : QueryMatch)

/-- A predicate of the match's pattern mentions the capture: it reads the text that it spans. -/
def Reads (c : Capture) : Prop :=
  c ∈ m.captures ∧ ∃ p ∈ q.predicates m.pattern, c.index ∈ p.mentioned

variable {q m}

theorem satisfies_congr {source source' : Bytes}
    (agree : ∀ c, q.Reads m c → c.node.range.AgreeOn source source') :
    q.satisfies m source' = q.satisfies m source := by
  have same : ∀ p ∈ q.predicates m.pattern,
      p.holds m.captures source' = p.holds m.captures source := by
    intro p hp
    refine Query.Predicate.holds_congr fun i hi => Query.textsOf_congr fun c hc isIndex => ?_
    exact agree c ⟨hc, p, hp, isIndex ▸ hi⟩
  rw [Bool.eq_iff_iff]
  simp only [satisfies, List.all_eq_true]
  exact forall₂_congr fun p hp => by rw [same p hp]

variable (q m)

/-- **Filtering reads only the text of the captures that predicates mention.** Two sources that have
the same bytes in the spans of these captures give a match one result. So does a source before and
after an edit that begins at or behind the ends of all of these spans. -/
theorem filter_reads_captured_text :
    (∀ source source' : Bytes,
      (∀ c, q.Reads m c → c.node.range.AgreeOn source source') →
        q.filter m source' = q.filter m source) ∧
    ∀ (old : Bytes) (start oldEnd : Nat) (newText : Bytes) (e : TextEdit) (new : Bytes),
      TextEdit.replace old start oldEnd newText = .ok (e, new) →
      (∀ c, q.Reads m c → c.node.range.endByte ≤ start) →
        q.filter m new = q.filter m old := by
  have verdict {source source' : Bytes}
      (agree : ∀ c, q.Reads m c → c.node.range.AgreeOn source source') :
      q.filter m source' = q.filter m source := by
    simp only [filter, satisfies_congr agree]
  refine ⟨fun source source' agree => verdict agree, ?_⟩
  intro old start oldEnd newText e new replaced behind
  exact verdict fun c reads => TextEdit.agreeOn_of_replace replaced (behind c reads)

/-- A query that compares its first capture with a string and keeps a property. -/
def comparingQuery : PatternQuery where
  grammar := ⟨"words", ⟨"words"⟩, []⟩
  structural := Bytes.ofText "((word) @a (word) @b)"
  shape := ⟨[Bytes.ofText "a", Bytes.ofText "b"], [0], [[.one, .one]]⟩
  attached := [(⟨0, Nat.zero_lt_one⟩, .eq 0 (.literal (Bytes.ofText "on")) false),
    (⟨0, Nat.zero_lt_one⟩, .property .set (Bytes.ofText "kind") none)]

/-- The second capture is not mentioned: the verdict outlives its loss in a shorter source, and an
edit that moves and rewrites it. -/
theorem filter_reads_captured_text_of_comparison :
    ∃ (m : QueryMatch) (e : TextEdit) (new : Bytes),
      m.captures = [Query.Predicate.capturing 0 1 3, Query.Predicate.capturing 1 4 7] ∧
      (comparingQuery.filter m (Bytes.ofText "(on off)")).isAccepted = true ∧
      comparingQuery.filter m (Bytes.ofText "[on") =
        comparingQuery.filter m (Bytes.ofText "(on off)") ∧
      TextEdit.replace (Bytes.ofText "(on off)") 3 6 (Bytes.ofText "\n\n") = .ok (e, new) ∧
      new = Bytes.ofText "(on\n\nf)" ∧
      comparingQuery.filter m new = comparingQuery.filter m (Bytes.ofText "(on off)") := by
  let m : QueryMatch :=
    ⟨0, 0, [Query.Predicate.capturing 0 1 3, Query.Predicate.capturing 1 4 7]⟩
  obtain ⟨agreeing, edited⟩ := filter_reads_captured_text comparingQuery m
  -- Of the two captures only the first is mentioned.
  have first (c : Capture) (reads : comparingQuery.Reads m c) :
      c = Query.Predicate.capturing 0 1 3 := by
    obtain ⟨hc, p, hp, mentions⟩ := reads
    have mentioned : ∀ p ∈ comparingQuery.predicates m.pattern, ∀ i ∈ p.mentioned, i = 0 := by
      decide
    have isFirst := mentioned p hp c.index mentions
    obtain rfl | rfl : c = Query.Predicate.capturing 0 1 3 ∨
        c = Query.Predicate.capturing 1 4 7 := by simpa [m] using hc
    · rfl
    · cases isFirst
  obtain ⟨e, new, replaced⟩ : ∃ e new, TextEdit.replace (Bytes.ofText "(on off)") 3 6
      (Bytes.ofText "\n\n") = .ok (e, new) := ⟨_, _, rfl⟩
  have result := (TextEdit.replace_eq_ok_iff.mp replaced).2.1
  refine ⟨m, e, new, rfl, by decide, agreeing _ _ ?_, replaced, ?_,
    edited _ _ _ _ e new replaced ?_⟩
  · intro c reads i starts ends
    obtain rfl := first c reads
    have starts : 1 ≤ i := starts
    have ends : i < 3 := ends
    obtain rfl | rfl : i = 1 ∨ i = 2 := by omega
    · rfl
    · rfl
  · rw [result]
    rfl
  · intro c reads
    obtain rfl := first c reads
    exact Nat.le_refl 3

end PatternQuery

end SyntaxForest
