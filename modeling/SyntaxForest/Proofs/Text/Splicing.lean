import SyntaxForest.Proofs.Text.Replacement

/-!
# Undoing and exchanging replacements

A replacement takes one text out from between two others and puts another one there. Described that
way, it treats the old text and the new one alike: its three ends are those of the text before and
of the text before with either of the two behind it. So the same description read backwards takes
the replacement back. Two replacements that do not overlap cut a text in five, and whichever comes
first, the text before the later one has grown or shrunk by the earlier one.

## Main definitions

* `TextEdit.exchange`: the description of a replacement by the texts that take part in it
* `TextEdit.inverse`: the description read backwards
* `Point.MovesWith`: a place that goes along when a place before it moves

## Main results

* `TextEdit.replace_append`: a replacement exchanges the text between two others
* `TextEdit.replace_undone`: replacing back gives the old text and the inverse description
* `TextEdit.disjoint_replacements_commute`: replacements apart from each other, in either order
-/

namespace SyntaxForest

namespace Point

/-- The place `p` goes to `q` when a place before it goes from `old` to `new`: it stays as many rows
below, and as many columns to the right when they are in one row. In a row of its own it keeps its
column. -/
structure MovesWith (old new p q : Point) : Prop where
  rows : (q.row : Int) - p.row = new.row - old.row
  oneRow : p.row = old.row → (q.column : Int) - p.column = new.column - old.column
  apart : p.row ≠ old.row → q.column = p.column

/-- What is reached by the same displacement from both places moves with them. -/
theorem movesWith_add (old new d : Point) : MovesWith old new (old + d) (new + d) := by
  show MovesWith old new (add old d) (add new d)
  by_cases down : 0 < d.row
  · have below : old.row + d.row ≠ old.row := by omega
    rw [add, add, if_pos down, if_pos down]
    refine ⟨?_, fun level => absurd level below, fun _ => rfl⟩
    push_cast
    omega
  · rw [add, add, if_neg down, if_neg down]
    refine ⟨rfl, fun _ => ?_, fun apart => absurd rfl apart⟩
    push_cast
    omega

end Point

namespace TextEdit

/-! ## Replacements between two texts -/

/-- The replacement of one text by another behind the text `before`. -/
def exchange (before oldText newText : Bytes) : TextEdit where
  startByte := before.length
  oldEndByte := (before ++ oldText).length
  newEndByte := (before ++ newText).length
  start := extent before
  oldEnd := extent (before ++ oldText)
  newEnd := extent (before ++ newText)

/-- The replacement of the new text by the old one. -/
def inverse (e : TextEdit) : TextEdit where
  startByte := e.startByte
  oldEndByte := e.newEndByte
  newEndByte := e.oldEndByte
  start := e.start
  oldEnd := e.newEnd
  newEnd := e.oldEnd

theorem inverse_exchange (before oldText newText : Bytes) :
    (exchange before oldText newText).inverse = exchange before newText oldText := rfl

/-- At the end of a text stands the point of the text. -/
theorem pointAt_length_append (a b : Bytes) : pointAt (a ++ b) a.length = extent a := by
  rw [pointAt_append_of_le b (Nat.le_refl _), extent]

/-- **A replacement exchanges the text between two others.** -/
theorem replace_append (before oldText behind newText : Bytes) :
    replace (before ++ oldText ++ behind) before.length (before ++ oldText).length newText =
      .ok (exchange before oldText newText, before ++ newText ++ behind) := by
  have taken : (before ++ oldText ++ behind).take before.length = before := by
    rw [List.append_assoc, List.take_left]
  refine replace_eq_ok_iff.mpr ⟨⟨by simp, by simp⟩, ?_, ?_⟩
  · rw [taken, List.drop_left]
  · have start : pointAt (before ++ oldText ++ behind) before.length = extent before := by
      rw [List.append_assoc, pointAt_length_append]
    rw [start, pointAt_length_append, ← List.length_append, pointAt_length_append]
    rfl

/-- A text is cut in two at every offset in it. -/
theorem exists_append_of_le {s : Bytes} {offset : Nat} (h : offset ≤ s.length) :
    ∃ before behind, s = before ++ behind ∧ before.length = offset :=
  ⟨s.take offset, s.drop offset, (List.take_append_drop ..).symm, List.length_take_of_le h⟩

/-! ## Undoing -/

/-- **Replacing back.** The old text put in the place of the new one gives the text as it was, and
the description has its two ends exchanged, in bytes and in points. -/
theorem replace_undone {old new newText : Bytes} {start oldEnd : Nat} {e : TextEdit}
    (h : replace old start oldEnd newText = .ok (e, new)) :
    replace new start e.newEndByte (old.extract start oldEnd) = .ok (e.inverse, old) := by
  obtain ⟨⟨first, last⟩, -, -⟩ := replace_eq_ok_iff.mp h
  obtain ⟨front, behind, rfl, rfl⟩ := exists_append_of_le last
  obtain ⟨before, oldText, rfl, rfl⟩ := exists_append_of_le first
  rw [replace_append] at h
  cases h
  have replaced : (before ++ oldText ++ behind).extract before.length (before ++ oldText).length =
      oldText := by
    rw [List.extract_eq_take_drop, List.append_assoc, List.drop_left, List.length_append,
      Nat.add_sub_cancel_left, List.take_left]
  rw [replaced, inverse_exchange]
  exact replace_append before newText behind oldText

/-- The first line end of a text is taken out and put back. -/
theorem replace_undone_of_line_end :
    ∃ old new e, replace old 2 5 [] = .ok (e, new) ∧
      old = Bytes.ofText "one\ntwo" ∧ new = Bytes.ofText "onwo" ∧
      e = ⟨2, 5, 2, ⟨0, 2⟩, ⟨1, 1⟩, ⟨0, 2⟩⟩ ∧
      replace new 2 e.newEndByte (Bytes.ofText "e\nt") =
        .ok (⟨2, 2, 5, ⟨0, 2⟩, ⟨0, 2⟩, ⟨1, 1⟩⟩, old) := by
  have taken : replace (Bytes.ofText "one\ntwo") 2 5 [] =
      .ok (⟨2, 5, 2, ⟨0, 2⟩, ⟨1, 1⟩, ⟨0, 2⟩⟩, Bytes.ofText "onwo") := by decide
  exact ⟨_, _, _, taken, rfl, rfl, rfl, replace_undone taken⟩

/-! ## Two replacements -/

/-- **Replacements apart from each other commute.** Of two ranges one of which ends before the other
starts, or where it starts, either may be replaced first. When the first of them is, the other one
is found further on by the bytes that the text has grown, or further back by those that it has lost.
Both orders give one text. The first replacement has one description in both, and in the description
of the other one all bytes are shifted by these bytes, and all points move with the end of the first
replacement. -/
theorem disjoint_replacements_commute {s : Bytes} {i j k l : Nat} (a b : Bytes) (first : i ≤ j)
    (apart : j ≤ k) (second : k ≤ l) (inside : l ≤ s.length) :
    let grown : Int := a.length - ((j : Int) - i)
    ∃ (k' l' : Nat) (e f f' : TextEdit) (withA withB new : Bytes),
      (k' : Int) = k + grown ∧ (l' : Int) = l + grown ∧
      replace s k l b = .ok (f, withB) ∧ replace withB i j a = .ok (e, new) ∧
      replace s i j a = .ok (e, withA) ∧ replace withA k' l' b = .ok (f', new) ∧
      (f'.startByte : Int) = f.startByte + grown ∧
      (f'.oldEndByte : Int) = f.oldEndByte + grown ∧
      (f'.newEndByte : Int) = f.newEndByte + grown ∧
      Point.MovesWith e.oldEnd e.newEnd f.start f'.start ∧
      Point.MovesWith e.oldEnd e.newEnd f.oldEnd f'.oldEnd ∧
      Point.MovesWith e.oldEnd e.newEnd f.newEnd f'.newEnd := by
  intro grown
  -- The text in five: what is replaced, what lies between, and what lies around.
  obtain ⟨s, behind, rfl, rfl⟩ := exists_append_of_le inside
  obtain ⟨s, y, rfl, rfl⟩ := exists_append_of_le second
  obtain ⟨s, between, rfl, rfl⟩ := exists_append_of_le apart
  obtain ⟨before, x, rfl, rfl⟩ := exists_append_of_le first
  have moved (t : Bytes) : Point.MovesWith (extent (before ++ x)) (extent (before ++ a))
      (extent (before ++ x ++ t)) (extent (before ++ a ++ t)) := by
    rw [extent_append (before ++ x), extent_append (before ++ a)]
    exact Point.movesWith_add ..
  have shifted (t : Bytes) :
      ((before ++ a ++ t).length : Int) = (before ++ x ++ t).length + grown := by
    simp only [grown, List.length_append]
    push_cast
    omega
  refine ⟨(before ++ a ++ between).length, (before ++ a ++ between ++ y).length,
    exchange before x a,
    exchange (before ++ x ++ between) y b, exchange (before ++ a ++ between) y b,
    before ++ a ++ between ++ y ++ behind, before ++ x ++ between ++ b ++ behind,
    before ++ a ++ between ++ b ++ behind, shifted between, ?_, replace_append .., ?_, ?_,
    replace_append .., shifted between, ?_, ?_, moved between, ?_, ?_⟩
  · simpa only [List.append_assoc] using shifted (between ++ y)
  · simpa only [List.append_assoc] using replace_append before x (between ++ b ++ behind) a
  · simpa only [List.append_assoc] using replace_append before x (between ++ y ++ behind) a
  · simpa only [exchange, List.append_assoc] using shifted (between ++ y)
  · simpa only [exchange, List.append_assoc] using shifted (between ++ b)
  · simpa only [exchange, List.append_assoc] using moved (between ++ y)
  · simpa only [exchange, List.append_assoc] using moved (between ++ b)

/-- Two replacements that touch. The first one brings a line end, and the second one takes away the
line end that was there. -/
theorem disjoint_replacements_commute_of_touching :
    ∃ (k' l' : Nat) (e f f' : TextEdit) (withA withB new : Bytes),
      k' = 4 ∧ l' = 7 ∧ new = Bytes.ofText "ox\nywo" ∧
      replace (Bytes.ofText "one\ntwo") 2 5 [] = .ok (f, withB) ∧
      replace withB 1 2 (Bytes.ofText "x\ny") = .ok (e, new) ∧
      replace (Bytes.ofText "one\ntwo") 1 2 (Bytes.ofText "x\ny") = .ok (e, withA) ∧
      replace withA k' l' [] = .ok (f', new) ∧
      f.start = ⟨0, 2⟩ ∧ f'.start = ⟨1, 1⟩ ∧ Point.MovesWith ⟨0, 2⟩ ⟨1, 1⟩ f.start f'.start ∧
      f.oldEnd = ⟨1, 1⟩ ∧ f'.oldEnd = ⟨2, 1⟩ ∧
      Point.MovesWith ⟨0, 2⟩ ⟨1, 1⟩ f.oldEnd f'.oldEnd := by
  obtain ⟨k', l', e, f, f', withA, withB, new, starts, ends, later, both, earlier, both', -, -, -,
    start, oldEnd, -⟩ := disjoint_replacements_commute (s := Bytes.ofText "one\ntwo") (i := 1)
      (j := 2) (k := 2) (l := 5) (Bytes.ofText "x\ny") [] (by decide) (by decide) (by decide)
      (by decide)
  have three : (Bytes.ofText "x\ny").length = 3 := by decide
  obtain rfl : k' = 4 := by omega
  obtain rfl : l' = 7 := by omega
  have ranFirst : replace (Bytes.ofText "one\ntwo") 1 2 (Bytes.ofText "x\ny") =
      .ok (⟨1, 2, 4, ⟨0, 1⟩, ⟨0, 2⟩, ⟨1, 1⟩⟩, Bytes.ofText "ox\nye\ntwo") := by decide
  have ranSecond : replace (Bytes.ofText "one\ntwo") 2 5 [] =
      .ok (⟨2, 5, 2, ⟨0, 2⟩, ⟨1, 1⟩, ⟨0, 2⟩⟩, Bytes.ofText "onwo") := by decide
  cases earlier.symm.trans ranFirst
  cases later.symm.trans ranSecond
  have ranAfter : replace (Bytes.ofText "ox\nye\ntwo") 4 7 [] =
      .ok (⟨4, 7, 4, ⟨1, 1⟩, ⟨2, 1⟩, ⟨1, 1⟩⟩, Bytes.ofText "ox\nywo") := by decide
  cases both'.symm.trans ranAfter
  exact ⟨4, 7, _, _, _, _, _, _, rfl, rfl, rfl, later, both, earlier, both', rfl, rfl, start, rfl,
    rfl, oldEnd⟩

end TextEdit

end SyntaxForest
