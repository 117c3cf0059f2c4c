import SyntaxForest.Engine
import SyntaxForest.Proofs.Text.Displacement
import SyntaxForest.Proofs.Tree.Coverage

/-!
# Coordinates after a replacement

The old text and the new one share what lies before the replacement and what lies behind it. A place
before it keeps its byte and its point. A place behind it is reached from the end of the replaced
text, and from the end of the new one, through the same text; so the two points differ by the same
displacement. Moving a place by the description of the replacement therefore leads to the point of
its byte in the new text, and so does an engine that moves the nodes of a tree like this.

## Main definitions

* `Engine.MovesNodes`: an engine that moves the nodes of a tree along with the text

## Main results

* `TextEdit.replace_eq_ok_iff`: when a replacement succeeds, and what it gives
* `TextEdit.movePoint_eq_pointAt`: a moved point is that of the moved byte
* `TextEdit.replace_moves_points`: the coordinates of a replacement
-/

namespace SyntaxForest

/-- The engine edits a tree by moving the range of each of its nodes along with the text. -/
def Engine.MovesNodes {σ : Type} (engine : Engine σ) : Prop :=
  ∀ (tree : SyntaxTree) (e : TextEdit), (engine.edit tree e).root.preorder.map Node.range =
    tree.root.preorder.map fun n => e.moveRange n.range

/-- Moving the labels of a tree is one way to do so. -/
theorem Engine.movesNodes_of_moved {σ : Type} {engine : Engine σ}
    (h : engine.edit = SyntaxTree.moved) : engine.MovesNodes := by
  intro tree e
  rw [h, SyntaxTree.moved, Node.preorder_moved, List.map_map]
  exact List.map_congr_left fun n _ => n.range_moved e

namespace TextEdit

section

variable {old new newText : Bytes} {start oldEnd : Nat} {e : TextEdit}

/-- A replacement succeeds when its range lies in the text. It gives the new text with the bytes and
the points of its three ends. -/
theorem replace_eq_ok_iff :
    replace old start oldEnd newText = .ok (e, new) ↔
      (start ≤ oldEnd ∧ oldEnd ≤ old.length) ∧
      new = old.take start ++ newText ++ old.drop oldEnd ∧
      e = ⟨start, oldEnd, start + newText.length, pointAt old start, pointAt old oldEnd,
        pointAt new (start + newText.length)⟩ := by
  rw [replace]
  split
  next inside =>
    constructor
    · intro h
      cases h
      exact ⟨inside, rfl, rfl⟩
    · rintro ⟨-, rfl, rfl⟩
      rfl
  next outside => exact iff_of_false nofun fun h => outside h.1

theorem replace_eq_error (h : ¬ (start ≤ oldEnd ∧ oldEnd ≤ old.length)) :
    replace old start oldEnd newText = .error (.invalidByteRange start oldEnd old.length) :=
  if_neg h

/-- Up to its start a replacement leaves all points as they are. -/
theorem pointAt_before (h : replace old start oldEnd newText = .ok (e, new)) {offset : Nat}
    (before : offset ≤ start) : pointAt new offset = pointAt old offset := by
  obtain ⟨⟨first, last⟩, rfl, -⟩ := replace_eq_ok_iff.mp h
  have shared : offset ≤ (old.take start).length := by
    rw [List.length_take]
    omega
  calc pointAt (old.take start ++ newText ++ old.drop oldEnd) offset
      = pointAt (old.take start) offset := by
        rw [List.append_assoc, pointAt_append_of_le _ shared]
    _ = pointAt (old.take start ++ old.drop start) offset := (pointAt_append_of_le _ shared).symm
    _ = pointAt old offset := by rw [List.take_append_drop]

/-- Behind a replacement, points are reached from the end of the new text as they were from the end
of the old one. -/
theorem pointAt_behind (h : replace old start oldEnd newText = .ok (e, new)) {offset : Nat}
    (behind : oldEnd ≤ offset) :
    pointAt new (offset - oldEnd + e.newEndByte) =
      e.newEnd + (pointAt old offset - e.oldEnd) := by
  obtain ⟨⟨first, last⟩, rfl, rfl⟩ := replace_eq_ok_iff.mp h
  dsimp only
  have length : start + newText.length = (old.take start ++ newText).length := by
    rw [List.length_append, List.length_take]
    omega
  -- Both points are reached through the text behind the replacement.
  have reached : pointAt old offset =
      pointAt old oldEnd + pointAt (old.drop oldEnd) (offset - oldEnd) := by
    have split := pointAt_append (old.take oldEnd) (old.drop oldEnd) (offset - oldEnd)
    rwa [List.take_append_drop, List.length_take, Nat.min_eq_left last,
      Nat.add_sub_of_le behind, ← pointAt_eq_extent] at split
  have ends : pointAt (old.take start ++ newText ++ old.drop oldEnd) (start + newText.length) =
      extent (old.take start ++ newText) := by
    rw [length, pointAt_append_of_le _ (Nat.le_refl _), extent]
  rw [reached, Point.add_sub_cancel_left, ends, Nat.add_comm, length, pointAt_append]

/-- **A moved point is that of the moved byte**, wherever the byte lies. A byte that was replaced
moves to the end of the new text. -/
theorem movePoint_eq_pointAt (h : replace old start oldEnd newText = .ok (e, new)) (offset : Nat) :
    e.movePoint offset (pointAt old offset) = pointAt new (e.moveByte offset) := by
  obtain ⟨-, -, same⟩ := replace_eq_ok_iff.mp h
  have startByte : e.startByte = start := by rw [same]
  have oldEndByte : e.oldEndByte = oldEnd := by rw [same]
  rw [movePoint, moveByte, oldEndByte, startByte]
  split
  next behind => exact (pointAt_behind h behind).symm
  next =>
    split
    next before => exact (pointAt_before h before).symm
    next => rw [same]

/-- A range with the points of its bytes moves to one with the points of its bytes. -/
theorem located_moveRange (h : replace old start oldEnd newText = .ok (e, new)) {r : Range}
    (located : r.Located old) : (e.moveRange r).Located new := by
  refine ⟨?_, ?_⟩
  · rw [moveRange, located.1]
    exact movePoint_eq_pointAt h r.startByte
  · rw [moveRange, located.2]
    exact movePoint_eq_pointAt h r.endByte

end

/-- **The coordinates of a replacement.** It succeeds exactly when its range lies in the text, and
otherwise names the range and the length of the text. The new text is the old one with the bytes of
the range replaced, and the description holds the bytes and the points of the three ends. Up to the
start all points stay. From the end of the replaced text on, a point differs from that of the new
end as it differed from that of the old end. So a place of the old text, moved by the description,
has the point of its byte in the new one; and when the points of all nodes of a tree are those of
their bytes, they still are after the edit of the tree by an engine that moves its nodes. -/
theorem replace_moves_points (old : Bytes) (start oldEnd : Nat) (newText : Bytes) :
    ((∃ e new, replace old start oldEnd newText = .ok (e, new)) ↔
      start ≤ oldEnd ∧ oldEnd ≤ old.length) ∧
    (¬ (start ≤ oldEnd ∧ oldEnd ≤ old.length) →
      replace old start oldEnd newText = .error (.invalidByteRange start oldEnd old.length)) ∧
    ∀ e new, replace old start oldEnd newText = .ok (e, new) →
      new = old.take start ++ newText ++ old.drop oldEnd ∧
      e = ⟨start, oldEnd, start + newText.length, pointAt old start, pointAt old oldEnd,
        pointAt new (start + newText.length)⟩ ∧
      (∀ offset ≤ start, pointAt new offset = pointAt old offset) ∧
      (∀ offset ≥ oldEnd, pointAt new (offset - oldEnd + e.newEndByte) =
        e.newEnd + (pointAt old offset - e.oldEnd)) ∧
      (∀ offset, e.movePoint offset (pointAt old offset) = pointAt new (e.moveByte offset)) ∧
      ∀ {σ : Type} (engine : Engine σ), engine.MovesNodes →
        ∀ tree : SyntaxTree, (∀ n ∈ tree.root.preorder, n.range.Located old) →
          ∀ n ∈ (engine.edit tree e).root.preorder, n.range.Located new := by
  refine ⟨⟨?_, ?_⟩, replace_eq_error, fun e new h => ?_⟩
  · rintro ⟨e, new, h⟩
    exact (replace_eq_ok_iff.mp h).1
  · intro inside
    exact ⟨_, _, replace_eq_ok_iff.mpr ⟨inside, rfl, rfl⟩⟩
  · obtain ⟨-, text, description⟩ := replace_eq_ok_iff.mp h
    refine ⟨text, description, fun offset => pointAt_before h, fun offset => pointAt_behind h,
      movePoint_eq_pointAt h, fun engine moves tree located n hn => ?_⟩
    have listed := List.mem_map_of_mem (f := Node.range) hn
    rw [moves] at listed
    obtain ⟨m, hm, same⟩ := List.mem_map.mp listed
    rw [← same]
    exact located_moveRange h (located m hm)

/-- A replacement takes one line end away and brings two. A place on the line where it ends moves
on, and so does a node that spans both lines. -/
theorem replace_moves_points_across_lines :
    ∃ old new e, replace old 2 5 (Bytes.ofText "x\ny\nz") = .ok (e, new) ∧
      new = Bytes.ofText "onx\ny\nzwo" ∧ e.oldEnd = ⟨1, 1⟩ ∧ e.newEnd = ⟨2, 1⟩ ∧
      pointAt new 1 = pointAt old 1 ∧
      pointAt old 6 = ⟨1, 2⟩ ∧ pointAt new (6 - 5 + e.newEndByte) = ⟨2, 1⟩ + (⟨1, 2⟩ - ⟨1, 1⟩) ∧
      e.movePoint 6 (pointAt old 6) = pointAt new (e.moveByte 6) ∧
      Engine.absent.MovesNodes ∧
      ∃ tree : SyntaxTree, (∀ n ∈ tree.root.preorder, n.range.Located old) ∧
        ∀ n ∈ (Engine.absent.edit tree e).root.preorder, n.range.Located new := by
  let old := Bytes.ofText "one\ntwo"
  let text := Bytes.ofText "x\ny\nz"
  obtain ⟨succeeds, -, gives⟩ := replace_moves_points old 2 5 text
  obtain ⟨e, new, h⟩ := succeeds.mpr (by decide)
  obtain ⟨same, description, before, behind, moved, located⟩ := gives e new h
  have newEnd : e.newEnd = ⟨2, 1⟩ := by
    rw [description, same]
    decide
  have oldEnd : e.oldEnd = ⟨1, 1⟩ := by
    rw [description]
    show pointAt old 5 = _
    decide
  have place : pointAt old 6 = ⟨1, 2⟩ := by decide
  have moves : Engine.absent.MovesNodes := Engine.movesNodes_of_moved rfl
  refine ⟨old, new, e, h, ?_, oldEnd, newEnd, before 1 (by decide), place, ?_, moved 6, moves, ?_⟩
  · rw [same]
    decide
  · rw [behind 6 (by decide), newEnd, oldEnd, place]
  · let label : Node.Label := ⟨0, "line", true, false, false, .ofOffsets old 0 7, none⟩
    have single : ∀ n ∈ (Node.mk label []).preorder, n.range.Located old := by
      intro n hn
      obtain rfl := List.mem_singleton.mp hn
      exact Range.located_ofOffsets old 0 7
    let tree : SyntaxTree := ⟨.mk label [], "", false⟩
    exact ⟨tree, single, located Engine.absent moves tree single⟩

end TextEdit

end SyntaxForest
