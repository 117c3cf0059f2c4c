import SyntaxForest.Proofs.Text.Displacement
import SyntaxForest.Proofs.Text.Lines

/-!
# Points as coordinates of offsets

The line feeds of a text separate its lines. An offset of the text lies in one of them or at its
end, as many bytes behind its start as the column of its point says, and each place of this kind is
the point of one offset only. Going on in the text leads to a later point, as the text in between is
a displacement forward.

## Main definitions

* `lineStart`: the offset at which the line of a row starts

## Main results

* `pointAt_lt_pointAt`: later offsets have later points
* `lineStart_add_column`, `exists_line_of_pointAt`: the offset of a point, and the line in which it
  lies
* `pointAt_lineStart_add`: the point of a place that is given by its line and its column
-/

namespace SyntaxForest

/-- The offset at which the line of a row starts: behind the lines above it, each with its line
feed. -/
def lineStart (source : Bytes) (row : Nat) : Nat :=
  (((source.splitOn Ascii.newline).take row).flatMap (· ++ [Ascii.newline])).length

/-! ## The order of points -/

/-- A displacement that leads down or to the right leads to a later point. -/
theorem Point.lt_add {d : Point} (forward : 0 < d.row ∨ 0 < d.column) (p : Point) : p < p + d := by
  show p.row < (add p d).row ∨ (p.row = (add p d).row ∧ p.column < (add p d).column)
  by_cases down : 0 < d.row
  · rw [add, if_pos down]
    left
    exact Nat.lt_add_of_pos_right down
  · rw [add, if_neg down]
    right
    exact ⟨rfl, Nat.lt_add_of_pos_right (forward.resolve_left down)⟩

/-- A text without line feeds leads to the right, by its length. -/
theorem extent_of_not_mem {text : Bytes} (free : Ascii.newline ∉ text) :
    extent text = ⟨0, text.length⟩ := by
  have line : lastLine text = text := by
    simpa [lastLine] using lastLine_append_of_not_mem (a := []) free
  rw [extent, pointAt, List.take_length, line, List.count_eq_zero.mpr free]

/-- Whole lines lead to the start of a line. -/
theorem extent_of_ends {before : Bytes}
    (ends : before = [] ∨ ∃ front, before = front ++ [Ascii.newline]) :
    extent before = ⟨before.count Ascii.newline, 0⟩ := by
  rcases ends with rfl | ⟨front, rfl⟩
  · rfl
  · have last : lastLine (front ++ [Ascii.newline]) = [] := by
      rw [lastLine_append_of_mem (List.mem_singleton_self _)]
      rfl
    rw [extent, pointAt, List.take_length, last, List.length_nil]

/-- A text that is not empty leads forward. -/
theorem extent_forward {text : Bytes} (ne_nil : text ≠ []) :
    0 < (extent text).row ∨ 0 < (extent text).column := by
  by_cases ends : Ascii.newline ∈ text
  · left
    rw [extent, pointAt, List.take_length]
    exact List.count_pos_iff.mpr ends
  · right
    rw [extent_of_not_mem ends]
    exact List.length_pos_iff.mpr ne_nil

/-- **Later offsets have later points**, up to the end of the text. -/
theorem pointAt_lt_pointAt {source : Bytes} {i j : Nat} (less : i < j)
    (inside : j ≤ source.length) : pointAt source i < pointAt source j := by
  -- What stands before the later offset is what stands before the earlier one, and a bit more.
  have split : source.take j = source.take i ++ (source.drop i).take (j - i) := by
    rw [← List.take_add, Nat.add_sub_cancel' (Nat.le_of_lt less)]
  have ne_nil : (source.drop i).take (j - i) ≠ [] := by
    intro none
    have length := congrArg List.length none
    rw [List.length_take, List.length_drop, List.length_nil] at length
    omega
  rw [pointAt_eq_extent, pointAt_eq_extent, split, extent_append]
  exact Point.lt_add (extent_forward ne_nil) _

/-- A later offset lies in the same row or in a later one. -/
theorem row_pointAt_mono {source : Bytes} {i j : Nat} (h : i ≤ j) :
    (pointAt source i).row ≤ (pointAt source j).row :=
  (List.take_sublist_take_left h).count_le Ascii.newline

/-- A place advances by the point of an offset: its row by the rows, and its column by the column
unless a line feed starts the column anew. -/
theorem Point.add_pointAt (p : Point) (text : Bytes) (offset : Nat) :
    p + pointAt text offset = ⟨p.row + (pointAt text offset).row,
      if Ascii.newline ∈ text.take offset then (pointAt text offset).column
      else p.column + (pointAt text offset).column⟩ := by
  show add p (pointAt text offset) = _
  have down : 0 < (pointAt text offset).row ↔ Ascii.newline ∈ text.take offset :=
    List.count_pos_iff
  by_cases ends : Ascii.newline ∈ text.take offset
  · rw [add, if_pos (down.mpr ends), if_pos ends]
  · have level : (pointAt text offset).row = 0 := List.count_eq_zero.mpr ends
    rw [add, if_neg (mt down.mp ends), if_neg ends, level, Nat.add_zero]

/-- Past the end of a text all offsets have the point of the end. -/
theorem pointAt_of_length_le {source : Bytes} {offset : Nat} (past : source.length ≤ offset) :
    pointAt source offset = pointAt source source.length := by
  rw [pointAt_eq_extent, List.take_of_length_le past]
  rfl

/-! ## Lines -/

section Lines

variable {source before line : Bytes} {row column offset : Nat}

/-- The lines of a text, each with a line feed, are the text with one more line feed, as the last
line has none. -/
theorem flatMap_splitOn (text : Bytes) :
    (text.splitOn Ascii.newline).flatMap (· ++ [Ascii.newline]) = text ++ [Ascii.newline] := by
  induction text with
  | nil => rfl
  | cons b text ih =>
    rw [List.splitOn_cons_eq_if_modifyHead]
    split
    next same =>
      obtain rfl : b = Ascii.newline := by simpa using same
      rw [List.flatMap_cons, ih, List.nil_append, List.singleton_append, List.cons_append]
    next =>
      -- The byte makes the first line longer.
      cases pieces : text.splitOn Ascii.newline with
      | nil =>
        rw [pieces] at ih
        exact absurd ih.symm (List.append_ne_nil_of_right_ne_nil _ (List.cons_ne_nil _ _))
      | cons first later =>
        rw [pieces, List.flatMap_cons] at ih
        rw [List.modifyHead_cons, List.flatMap_cons, List.cons_append, List.cons_append, ih,
          List.cons_append]

/-- The lines of what follows whole lines come behind these. -/
theorem getElem?_splitOn_append
    (ends : before = [] ∨ ∃ front, before = front ++ [Ascii.newline]) (text : Bytes) (row : Nat) :
    ((before ++ text).splitOn Ascii.newline)[before.count Ascii.newline + row]? =
      (text.splitOn Ascii.newline)[row]? := by
  rcases ends with rfl | ⟨front, rfl⟩
  · rw [List.count_nil, Nat.zero_add, List.nil_append]
  · rw [count_newline_concat, List.append_assoc, List.singleton_append,
      List.splitOn_append_cons_self, List.getElem?_append_right (Nat.le_add_right _ row),
      Nat.add_sub_cancel_left]

/-- A line starts behind whole lines. -/
theorem lineStart_append (ends : before = [] ∨ ∃ front, before = front ++ [Ascii.newline])
    (text : Bytes) :
    lineStart (before ++ text) (before.count Ascii.newline) = before.length := by
  rcases ends with rfl | ⟨front, rfl⟩
  · rfl
  · rw [lineStart, count_newline_concat, List.append_assoc, List.singleton_append,
      List.splitOn_append_cons_self, List.take_left, flatMap_splitOn]

/-- A text is cut at an offset behind whole lines and the beginning of one more. They are the row
and the column of its point. -/
theorem exists_append_of_pointAt (source : Bytes) (offset : Nat) :
    ∃ before line rest, source = before ++ (line ++ rest) ∧ source.take offset = before ++ line ∧
      (before = [] ∨ ∃ front, before = front ++ [Ascii.newline]) ∧ Ascii.newline ∉ line ∧
      pointAt source offset = ⟨before.count Ascii.newline, line.length⟩ := by
  obtain ⟨before, split, ends, free⟩ := exists_lines (source.take offset)
  refine ⟨before, _, source.drop offset, ?_, split, ends, free, ?_⟩
  · rw [← List.append_assoc, ← split, List.take_append_drop]
  · -- The beginning of a line has no line feed, so the whole lines have them all.
    have row : (source.take offset).count Ascii.newline = before.count Ascii.newline := by
      rw [split, List.count_append, List.count_eq_zero.mpr free, Nat.add_zero]
    rw [pointAt, row]

/-- **The offset of a point** is the start of its line and its column. -/
theorem lineStart_add_column (inside : offset ≤ source.length) :
    lineStart source (pointAt source offset).row + (pointAt source offset).column = offset := by
  obtain ⟨before, line, rest, whole, split, ends, -, point⟩ :=
    exists_append_of_pointAt source offset
  have start : lineStart source (before.count Ascii.newline) = before.length := by
    rw [whole]
    exact lineStart_append ends _
  calc lineStart source (pointAt source offset).row + (pointAt source offset).column
      = before.length + line.length := by rw [point, start]
    _ = (source.take offset).length := by rw [split, List.length_append]
    _ = offset := List.length_take_of_le inside

/-- The first line of a text goes on with a beginning that has no line feed. -/
theorem exists_head_splitOn (free : Ascii.newline ∉ line) (rest : Bytes) :
    ∃ more, ((line ++ rest).splitOn Ascii.newline)[0]? = some (line ++ more) := by
  by_cases ends : Ascii.newline ∈ rest
  · obtain ⟨more, rest, rfl, free'⟩ := List.eq_append_cons_of_mem ends
    have both : Ascii.newline ∉ line ++ more := by
      rw [List.mem_append]
      exact fun inside => inside.elim free free'
    rw [← List.append_assoc, List.splitOn_append_cons_self_of_not_mem both]
    exact ⟨more, rfl⟩
  · have both : Ascii.newline ∉ line ++ rest := by
      rw [List.mem_append]
      exact fun inside => inside.elim free ends
    rw [List.splitOn_eq_singleton both]
    exact ⟨rest, rfl⟩

/-- A point lies in a line of the text or at its end. -/
theorem exists_line_of_pointAt (source : Bytes) (offset : Nat) :
    ∃ line, (source.splitOn Ascii.newline)[(pointAt source offset).row]? = some line ∧
      (pointAt source offset).column ≤ line.length := by
  obtain ⟨before, line, rest, whole, -, ends, free, point⟩ := exists_append_of_pointAt source offset
  have place := getElem?_splitOn_append ends (line ++ rest) 0
  obtain ⟨more, first⟩ := exists_head_splitOn free rest
  rw [← whole, Nat.add_zero, first] at place
  rw [point]
  refine ⟨line ++ more, place, ?_⟩
  rw [List.length_append]
  exact Nat.le_add_right _ _

/-- A line stands behind the whole lines above it. -/
theorem exists_append_of_getElem?_splitOn
    (h : (source.splitOn Ascii.newline)[row]? = some line) :
    ∃ before rest, source = before ++ (line ++ rest) ∧
      (before = [] ∨ ∃ front, before = front ++ [Ascii.newline]) ∧
      before.count Ascii.newline = row ∧ Ascii.newline ∉ line := by
  -- The induction takes the lines above away, one by one.
  induction row generalizing source with
  | zero =>
    by_cases ends : Ascii.newline ∈ source
    · obtain ⟨first, rest, rfl, free⟩ := List.eq_append_cons_of_mem ends
      rw [List.splitOn_append_cons_self_of_not_mem free] at h
      cases h
      exact ⟨[], Ascii.newline :: rest, rfl, .inl rfl, rfl, free⟩
    · rw [List.splitOn_eq_singleton ends] at h
      cases h
      exact ⟨[], [], (List.append_nil _).symm, .inl rfl, rfl, ends⟩
  | succ row ih =>
    by_cases ends : Ascii.newline ∈ source
    · obtain ⟨first, rest, rfl, free⟩ := List.eq_append_cons_of_mem ends
      rw [List.splitOn_append_cons_self_of_not_mem free, List.getElem?_cons_succ] at h
      obtain ⟨before, behind, rfl, ends', rows, free'⟩ := ih h
      refine ⟨first ++ Ascii.newline :: before, behind, ?_, .inr ?_, ?_, free'⟩
      · rw [List.append_assoc, List.cons_append]
      · rcases ends' with rfl | ⟨front, rfl⟩
        · exact ⟨first, rfl⟩
        · refine ⟨first ++ Ascii.newline :: front, ?_⟩
          rw [List.append_assoc, List.cons_append]
      · rw [List.count_append, List.count_eq_zero.mpr free, List.count_cons_self, rows,
          Nat.zero_add]
    · rw [List.splitOn_eq_singleton ends] at h
      cases h

/-- **The place of a line and a column** is the point of the offset that lies as far behind the
start of the line. -/
theorem pointAt_lineStart_add (h : (source.splitOn Ascii.newline)[row]? = some line)
    (inLine : column ≤ line.length) :
    lineStart source row + column ≤ source.length ∧
      pointAt source (lineStart source row + column) = ⟨row, column⟩ := by
  obtain ⟨before, rest, rfl, ends, rfl, free⟩ := exists_append_of_getElem?_splitOn h
  rw [lineStart_append ends]
  constructor
  · rw [List.length_append, List.length_append]
    omega
  · -- The line has no line feed up to the column.
    have inside : Ascii.newline ∉ line.take column := fun below => free (List.mem_of_mem_take below)
    have right : pointAt (line ++ rest) column = ⟨0, column⟩ := by
      rw [pointAt_append_of_le rest inLine, pointAt_eq_extent, extent_of_not_mem inside,
        List.length_take_of_le inLine]
    rw [pointAt_append, right, extent_of_ends ends]
    show Point.add _ _ = _
    rw [Point.add, if_neg (Nat.lt_irrefl 0), Nat.zero_add]

end Lines

end SyntaxForest
