import SyntaxForest.Tree.Coverage

/-!
# What covering ranges cover

The gaps of an anchor are found with a cursor that stands at the furthest end of a child so far.
Whatever the children are, a gap begins at the cursor or behind it and is not empty. Children that
do not end before they start leave gaps in order, which the engine accepts. Children in order of
their starts leave exactly the bytes that none of them holds.

## Main definitions

* `Range.Contains`: the bytes of a range
* `Range.LiesIn`: a range that lies in another
* `Range.Located`: a range whose points are those of its bytes in a text

## Main results

* `Range.ordered_iff`: the ranges that the engine accepts
* `ordered_coveringRanges`: it accepts the covering ranges
* `coveringRanges_partition`: the covering ranges of ordered children
-/

namespace SyntaxForest

namespace Range

/-- The byte lies in the range. -/
def Contains (r : Range) (b : Nat) : Prop := r.startByte ≤ b ∧ b < r.endByte

/-- The range does not end before it starts, and no part of it lies outside the other range. -/
def LiesIn (r anchor : Range) : Prop :=
  anchor.startByte ≤ r.startByte ∧ r.startByte ≤ r.endByte ∧ r.endByte ≤ anchor.endByte

instance (r anchor : Range) : Decidable (r.LiesIn anchor) :=
  inferInstanceAs (Decidable (_ ∧ _ ∧ _))

/-- The points of the range are those of its bytes in the text. -/
def Located (source : Bytes) (r : Range) : Prop :=
  r.startPoint = pointAt source r.startByte ∧ r.endPoint = pointAt source r.endByte

/-- The range of the bytes of a text from one offset to another. -/
def ofOffsets (source : Bytes) (start stop : Nat) : Range :=
  ⟨start, stop, pointAt source start, pointAt source stop⟩

theorem located_ofOffsets (source : Bytes) (start stop : Nat) :
    (ofOffsets source start stop).Located source := ⟨rfl, rfl⟩

end Range

/-! ## Order -/

/-- The engine finds no disorder exactly when the ranges start behind the bytes before them, none
ends before it starts, and each starts behind the ones ahead of it. -/
theorem firstDisorder?_eq_none_iff {previousEnd index : Nat} {ranges : List Range} :
    firstDisorder? previousEnd index ranges = none ↔
      (∀ r ∈ ranges, previousEnd ≤ r.startByte ∧ r.startByte ≤ r.endByte) ∧
        ranges.Pairwise (·.endByte ≤ ·.startByte) := by
  induction ranges generalizing previousEnd index with
  | nil => simp [firstDisorder?]
  | cons r rest ih =>
    rw [firstDisorder?, List.pairwise_cons, List.forall_mem_cons]
    by_cases disorder : r.startByte < previousEnd ∨ r.endByte < r.startByte
    · rw [if_pos disorder]
      refine iff_of_false (by simp) ?_
      rintro ⟨⟨⟨starts, ends⟩, -⟩, -⟩
      omega
    · rw [if_neg disorder, ih]
      constructor
      · rintro ⟨inside, sorted⟩
        refine ⟨⟨by omega, fun q hq => ?_⟩, fun q hq => (inside q hq).1, sorted⟩
        obtain ⟨starts, ends⟩ := inside q hq
        exact ⟨by omega, ends⟩
      · rintro ⟨⟨-, inside⟩, first, sorted⟩
        exact ⟨fun q hq => ⟨first q hq, (inside q hq).2⟩, sorted⟩

/-- **The ranges that the engine accepts**: none ends before it starts, and each starts behind the
ones ahead of it. -/
theorem Range.ordered_iff {ranges : List Range} :
    Range.Ordered ranges ↔
      (∀ r ∈ ranges, r.startByte ≤ r.endByte) ∧ ranges.Pairwise (·.endByte ≤ ·.startByte) := by
  rw [Range.Ordered, firstDisorder?_eq_none_iff]
  simp only [Nat.zero_le, true_and]

/-! ## Gaps -/

section Gaps

variable {anchor : Range} {cursor : Nat} {point : Point}

/-- The gap before the first child, if there is one, comes ahead of those behind it. -/
theorem mem_gaps_cons {child r : Range} {rest : List Range} :
    r ∈ gaps anchor cursor point (child :: rest) ↔
      (cursor < child.startByte ∧ r = ⟨cursor, child.startByte, point, child.startPoint⟩) ∨
      r ∈ if cursor < child.endByte then gaps anchor child.endByte child.endPoint rest
        else gaps anchor cursor point rest := by
  simp only [gaps]
  split <;> rename_i h <;> simp [h]

/-- A gap lies behind the cursor and is not empty, whatever the children are. -/
theorem lt_of_mem_gaps {children : List Range} {r : Range}
    (h : r ∈ gaps anchor cursor point children) :
    cursor ≤ r.startByte ∧ r.startByte < r.endByte := by
  induction children generalizing cursor point with
  | nil =>
    rw [gaps] at h
    split at h
    next before =>
      obtain rfl := List.mem_singleton.mp h
      exact ⟨Nat.le_refl _, before⟩
    next => cases h
  | cons child rest ih =>
    rcases mem_gaps_cons.mp h with ⟨before, rfl⟩ | later
    · exact ⟨Nat.le_refl _, before⟩
    · split at later
      next further =>
        obtain ⟨behind, nonempty⟩ := ih later
        exact ⟨by omega, nonempty⟩
      next => exact ih later

/-- Gaps come in order when no child ends before it starts, whatever the order of the children. -/
theorem pairwise_gaps {children : List Range} (proper : ∀ c ∈ children, c.startByte ≤ c.endByte) :
    (gaps anchor cursor point children).Pairwise (·.endByte ≤ ·.startByte) := by
  induction children generalizing cursor point with
  | nil =>
    rw [gaps]
    split
    · exact List.pairwise_singleton ..
    · exact .nil
  | cons child rest ih =>
    obtain ⟨first, others⟩ := List.forall_mem_cons.mp proper
    rw [gaps]
    split
    next before =>
      -- The gap ends where the child starts, and the cursor goes on behind the child.
      rw [if_pos (Nat.lt_of_lt_of_le before first)]
      refine List.pairwise_cons.mpr ⟨fun r hr => ?_, ih others⟩
      exact Nat.le_trans first (lt_of_mem_gaps hr).1
    next =>
      split
      next => exact ih others
      next => exact ih others

/-- The gaps behind the cursor hold the bytes of the anchor that lie in no child, when the children
come in order of their starts and end in the anchor. -/
theorem exists_mem_gaps_contains_iff {children : List Range} {b : Nat}
    (sorted : children.Pairwise (·.startByte ≤ ·.startByte))
    (inside : ∀ c ∈ children, c.startByte ≤ c.endByte ∧ c.endByte ≤ anchor.endByte) :
    (∃ r ∈ gaps anchor cursor point children, r.Contains b) ↔
      (cursor ≤ b ∧ b < anchor.endByte) ∧ ∀ c ∈ children, ¬ c.Contains b := by
  induction children generalizing cursor point with
  | nil =>
    rw [gaps]
    split
    next => simp [Range.Contains]
    next empty =>
      refine iff_of_false (by simp) ?_
      rintro ⟨⟨behind, before⟩, -⟩
      omega
  | cons child rest ih =>
    obtain ⟨after, sorted⟩ := List.pairwise_cons.mp sorted
    obtain ⟨⟨first, ends⟩, others⟩ := List.forall_mem_cons.mp inside
    -- Behind the child the cursor stands at its end, unless it has passed that already.
    have later : (∃ r ∈ if cursor < child.endByte then gaps anchor child.endByte child.endPoint rest
        else gaps anchor cursor point rest, r.Contains b) ↔
          ((cursor ≤ b ∧ child.endByte ≤ b) ∧ b < anchor.endByte) ∧ ∀ c ∈ rest, ¬ c.Contains b := by
      split
      next further =>
        rw [ih sorted others]
        refine and_congr_left fun _ => and_congr_left fun _ => ?_
        omega
      next passed =>
        rw [ih sorted others]
        refine and_congr_left fun _ => and_congr_left fun _ => ?_
        omega
    simp only [mem_gaps_cons, or_and_right, exists_or, later, List.forall_mem_cons]
    constructor
    · rintro (⟨r, ⟨-, rfl⟩, behind, before⟩ | ⟨⟨⟨behind, past⟩, before⟩, uncovered⟩)
      · -- The byte lies before this child, and so before all that start later.
        dsimp only at behind before
        refine ⟨⟨behind, by omega⟩, fun covered => ?_, fun c hc covered => ?_⟩
        · exact absurd covered.1 (Nat.not_le.mpr before)
        · exact absurd covered.1 (Nat.not_le.mpr (Nat.lt_of_lt_of_le before (after c hc)))
      · exact ⟨⟨behind, before⟩, fun covered => absurd covered.2 (Nat.not_lt.mpr past), uncovered⟩
    · rintro ⟨⟨behind, before⟩, outside, uncovered⟩
      by_cases ahead : b < child.startByte
      · exact .inl ⟨_, ⟨Nat.lt_of_le_of_lt behind ahead, rfl⟩, behind, ahead⟩
      · have past : child.endByte ≤ b :=
          Nat.not_lt.mp fun h => outside ⟨Nat.not_lt.mp ahead, h⟩
        exact .inr ⟨⟨⟨behind, past⟩, before⟩, uncovered⟩

/-- The points of gaps are those of their bytes when those of the cursor, the anchor's end and the
children are. -/
theorem located_of_mem_gaps {source : Bytes} {children : List Range} {r : Range}
    (start : point = pointAt source cursor) (stop : anchor.endPoint = pointAt source anchor.endByte)
    (located : ∀ c ∈ children, c.Located source) (h : r ∈ gaps anchor cursor point children) :
    r.Located source := by
  induction children generalizing cursor point with
  | nil =>
    rw [gaps] at h
    split at h
    next =>
      obtain rfl := List.mem_singleton.mp h
      exact ⟨start, stop⟩
    next => cases h
  | cons child rest ih =>
    obtain ⟨first, others⟩ := List.forall_mem_cons.mp located
    rcases mem_gaps_cons.mp h with ⟨-, rfl⟩ | later
    · exact ⟨start, first.1⟩
    · split at later
      next => exact ih first.2 others later
      next => exact ih start others later

end Gaps

/-! ## Covering ranges -/

section CoveringRanges

variable {anchor : Range} {children : List Range}

/-- The covering ranges are the gaps, or the empty range at the anchor's end. -/
theorem coveringRanges_cases (anchor : Range) (children : List Range) :
    (gaps anchor anchor.startByte anchor.startPoint children ≠ [] ∧
      coveringRanges anchor children = gaps anchor anchor.startByte anchor.startPoint children) ∨
    (gaps anchor anchor.startByte anchor.startPoint children = [] ∧
      coveringRanges anchor children = [anchor.atEnd]) := by
  rw [coveringRanges]
  split
  next none => exact .inr ⟨none, rfl⟩
  next found => exact .inl ⟨found, rfl⟩

/-- Covering ranges are never the empty list, which would stand for the whole text. -/
theorem coveringRanges_ne_nil (anchor : Range) (children : List Range) :
    coveringRanges anchor children ≠ [] := by
  rcases coveringRanges_cases anchor children with ⟨found, same⟩ | ⟨-, same⟩
  · rw [same]
    exact found
  · rw [same]
    exact List.cons_ne_nil _ _

/-- The engine accepts covering ranges when no child ends before it starts. The children may come in
any order, overlap and lie outside the anchor. -/
theorem ordered_coveringRanges (proper : ∀ c ∈ children, c.startByte ≤ c.endByte) :
    Range.Ordered (coveringRanges anchor children) := by
  rw [Range.ordered_iff]
  rcases coveringRanges_cases anchor children with ⟨-, same⟩ | ⟨-, same⟩
  · rw [same]
    exact ⟨fun r hr => Nat.le_of_lt (lt_of_mem_gaps hr).2, pairwise_gaps proper⟩
  · rw [same]
    refine ⟨fun r hr => ?_, List.pairwise_singleton ..⟩
    obtain rfl := List.mem_singleton.mp hr
    exact Nat.le_refl _

/-- What covering ranges hold lies in the anchor and in no child. -/
theorem contains_of_mem_coveringRanges (sorted : children.Pairwise (·.startByte ≤ ·.startByte))
    (inside : ∀ c ∈ children, c.LiesIn anchor) {r : Range} (hr : r ∈ coveringRanges anchor children)
    {b : Nat} (hb : r.Contains b) : anchor.Contains b ∧ ∀ c ∈ children, ¬ c.Contains b := by
  rcases coveringRanges_cases anchor children with ⟨-, same⟩ | ⟨-, same⟩
  · rw [same] at hr
    exact (exists_mem_gaps_contains_iff sorted fun c hc => (inside c hc).2).mp ⟨r, hr, hb⟩
  · rw [same] at hr
    obtain rfl := List.mem_singleton.mp hr
    exact absurd hb.2 (Nat.not_lt.mpr hb.1)

/-- **The covering ranges of children that lie in the anchor, in order of their starts.** They hold
exactly the bytes of the anchor that lie in no child, each byte once and in order. None is empty
unless no byte is left; then there is one, at the anchor's end. Their points are those of their
bytes in a text when those of the anchor and the children are. -/
theorem coveringRanges_partition (sorted : children.Pairwise (·.startByte ≤ ·.startByte))
    (inside : ∀ c ∈ children, c.LiesIn anchor) :
    (∀ b, (∃ r ∈ coveringRanges anchor children, r.Contains b) ↔
      anchor.Contains b ∧ ∀ c ∈ children, ¬ c.Contains b) ∧
    (∀ b, (coveringRanges anchor children).Pairwise fun r q => ¬ (r.Contains b ∧ q.Contains b)) ∧
    (coveringRanges anchor children).Pairwise (·.endByte ≤ ·.startByte) ∧
    ((∃ b, anchor.Contains b ∧ ∀ c ∈ children, ¬ c.Contains b) →
      ∀ r ∈ coveringRanges anchor children, r.startByte < r.endByte) ∧
    ((∀ b, anchor.Contains b → ∃ c ∈ children, c.Contains b) →
      coveringRanges anchor children = [anchor.atEnd]) ∧
    ∀ source, anchor.Located source → (∀ c ∈ children, c.Located source) →
      ∀ r ∈ coveringRanges anchor children, r.Located source := by
  have covered (b : Nat) :
      (∃ r ∈ gaps anchor anchor.startByte anchor.startPoint children, r.Contains b) ↔
        anchor.Contains b ∧ ∀ c ∈ children, ¬ c.Contains b :=
    exists_mem_gaps_contains_iff sorted fun c hc => (inside c hc).2
  have ordered : (coveringRanges anchor children).Pairwise (·.endByte ≤ ·.startByte) :=
    (Range.ordered_iff.mp (ordered_coveringRanges fun c hc => (inside c hc).2.1)).2
  refine ⟨fun b => ?_, fun b => ?_, ordered, ?_, ?_, ?_⟩
  · rcases coveringRanges_cases anchor children with ⟨-, same⟩ | ⟨none, same⟩
    · rw [same]
      exact covered b
    · -- No gap is left, so neither side has a byte.
      rw [none] at covered
      rw [same, ← covered b]
      refine iff_of_false ?_ (by simp)
      rintro ⟨r, hr, behind, before⟩
      obtain rfl := List.mem_singleton.mp hr
      exact absurd before (Nat.not_lt.mpr behind)
  · refine ordered.imp fun {r q} behind => ?_
    rintro ⟨⟨-, before⟩, after, -⟩
    omega
  · rintro ⟨b, left⟩ r hr
    rcases coveringRanges_cases anchor children with ⟨-, same⟩ | ⟨none, -⟩
    · rw [same] at hr
      exact (lt_of_mem_gaps hr).2
    · have := (covered b).mpr left
      simp [none] at this
  · intro full
    rcases coveringRanges_cases anchor children with ⟨found, -⟩ | ⟨-, same⟩
    · -- A gap holds its own first byte, which would lie in no child.
      obtain ⟨r, hr⟩ := List.exists_mem_of_ne_nil _ found
      obtain ⟨within, uncovered⟩ := (covered r.startByte).mp
        ⟨r, hr, Nat.le_refl _, (lt_of_mem_gaps hr).2⟩
      obtain ⟨c, hc, holds⟩ := full _ within
      exact absurd holds (uncovered c hc)
    · exact same
  · intro source located children_located r hr
    rcases coveringRanges_cases anchor children with ⟨-, same⟩ | ⟨-, same⟩
    · rw [same] at hr
      exact located_of_mem_gaps located.1 located.2 children_located hr
    · rw [same] at hr
      obtain rfl := List.mem_singleton.mp hr
      exact ⟨located.2, located.2⟩

end CoveringRanges

/-- One child holds another and a third is empty, in a text of three lines. -/
theorem coveringRanges_partition_nested :
    ∃ source anchor children,
      children = [Range.ofOffsets source 1 5, Range.ofOffsets source 3 4,
        Range.ofOffsets source 6 6] ∧
      children.Pairwise (·.startByte ≤ ·.startByte) ∧ (∀ c ∈ children, c.LiesIn anchor) ∧
      coveringRanges anchor children = [⟨0, 1, ⟨0, 0⟩, ⟨0, 1⟩⟩, ⟨5, 6, ⟨1, 2⟩, ⟨2, 0⟩⟩,
        ⟨6, 8, ⟨2, 0⟩, ⟨2, 2⟩⟩] ∧
      (∀ b, (∃ r ∈ coveringRanges anchor children, r.Contains b) ↔
        anchor.Contains b ∧ ∀ c ∈ children, ¬ c.Contains b) ∧
      ∀ r ∈ coveringRanges anchor children, r.Located source := by
  let source := Bytes.ofText "ab\ncd\nef"
  let anchor := Range.ofOffsets source 0 8
  let children := [Range.ofOffsets source 1 5, Range.ofOffsets source 3 4,
    Range.ofOffsets source 6 6]
  have sorted : children.Pairwise (·.startByte ≤ ·.startByte) := by decide
  have inside : ∀ c ∈ children, c.LiesIn anchor := by decide
  have located : ∀ c ∈ children, c.Located source := by
    intro c hc
    simp only [children, List.mem_cons, List.not_mem_nil, or_false] at hc
    rcases hc with rfl | rfl | rfl <;> exact Range.located_ofOffsets source _ _
  obtain ⟨covered, -, -, -, -, points⟩ := coveringRanges_partition sorted inside
  exact ⟨source, anchor, children, rfl, sorted, inside, by decide +kernel, covered,
    points source (Range.located_ofOffsets source 0 8) located⟩

end SyntaxForest
