import Mathlib.Data.List.TakeWhile
import SyntaxForest.Text.Point

/-!
# Displacements

A text leads from one point to a later one: down by its line ends, and to the column behind the last
of them or, when it has none, to the right. Displacements of texts that follow each other add up, so
the point of an offset is found from any earlier point and the text in between, and the displacement
between two points is what the text between them makes.

## Main definitions

* `extent`: the displacement that a text makes

## Main results

* `extent_append`: displacements add up
* `pointAt_append`: the point of an offset behind a text
* `Point.add_sub_cancel_left`: the displacement between two points
-/

namespace SyntaxForest

namespace Point

/-- The displacement from a point to the one that a displacement leads to is that displacement. -/
theorem add_sub_cancel_left (p d : Point) : p + d - p = d := by
  show sub (add p d) p = d
  obtain ⟨row, column⟩ := d
  -- The two cases of the addition end in the two cases of the subtraction.
  cases row with
  | zero => simp only [add, sub, Nat.lt_irrefl, if_false, if_true, Nat.add_sub_cancel_left]
  | succ row =>
    have down : p.row + (row + 1) ≠ p.row := by omega
    simp only [add, sub, Nat.zero_lt_succ, if_true, if_neg down, Nat.add_sub_cancel_left]

end Point

/-- The displacement from the start of a text to its end. -/
def extent (text : Bytes) : Point := pointAt text text.length

theorem pointAt_eq_extent (source : Bytes) (offset : Nat) :
    pointAt source offset = extent (source.take offset) := by
  simp only [extent, pointAt, List.take_length]

/-- A line end in the later text hides the last line of the earlier one. -/
theorem lastLine_append_of_mem {a b : Bytes} (h : Ascii.newline ∈ b) :
    lastLine (a ++ b) = lastLine b := by
  have stops : (b.reverse.takeWhile (· ≠ Ascii.newline)).length ≠ b.reverse.length := by
    intro whole
    have through := List.takeWhile_eq_self_iff.mp
      ((List.takeWhile_sublist _).eq_of_length whole) _ (List.mem_reverse.mpr h)
    simp at through
  rw [lastLine, lastLine, List.reverse_append, List.takeWhile_append, if_neg stops]

/-- A later text without line ends goes on with the last line of the earlier one. -/
theorem lastLine_append_of_not_mem {a b : Bytes} (h : Ascii.newline ∉ b) :
    lastLine (a ++ b) = lastLine a ++ b := by
  have through : ∀ x ∈ b.reverse, decide (x ≠ Ascii.newline) = true := by
    intro x hx
    exact decide_eq_true fun same => h (same ▸ List.mem_reverse.mp hx)
  rw [lastLine, lastLine, List.reverse_append, List.takeWhile_append_of_pos through,
    List.reverse_append, List.reverse_reverse]

/-- **Displacements add up** along texts that follow each other. -/
theorem extent_append (a b : Bytes) : extent (a ++ b) = extent a + extent b := by
  show _ = Point.add (extent a) (extent b)
  simp only [extent, pointAt, List.take_length, List.count_append, Point.add]
  -- A line end in the later text starts the column anew.
  by_cases ends : Ascii.newline ∈ b
  · rw [if_pos (List.count_pos_iff.mpr ends), lastLine_append_of_mem ends]
  · have none : b.count Ascii.newline = 0 := List.count_eq_zero.mpr ends
    have line : lastLine b = b := by
      simpa [lastLine] using lastLine_append_of_not_mem (a := []) ends
    rw [none, if_neg (Nat.lt_irrefl 0), lastLine_append_of_not_mem ends, line, List.length_append,
      Nat.add_zero]

/-- The point of an offset behind a text is the displacement of that text, advanced by the point of
the offset in what follows. -/
theorem pointAt_append (a b : Bytes) (offset : Nat) :
    pointAt (a ++ b) (a.length + offset) = extent a + pointAt b offset := by
  rw [pointAt_eq_extent, pointAt_eq_extent, List.take_length_add_append, extent_append]

/-- Before the end of a text its points are those of the text alone. -/
theorem pointAt_append_of_le {a : Bytes} (b : Bytes) {offset : Nat} (h : offset ≤ a.length) :
    pointAt (a ++ b) offset = pointAt a offset := by
  rw [pointAt_eq_extent, pointAt_eq_extent, List.take_append_of_le_length h]

end SyntaxForest
