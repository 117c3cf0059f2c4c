import SyntaxForest.Text.Point

/-!
# Text edits

One contiguous replacement, described in bytes and in points, so that whatever is anchored in the
old text can be moved to the same place in the new one.

## Main definitions

* `TextEdit.replace`: replace a byte range and describe the replacement
* `TextEdit.moveByte`, `TextEdit.movePoint`, `TextEdit.moveRange`: where a place of the old text
  lies in the new one, for those who move what is anchored there
-/

namespace SyntaxForest

/-- One contiguous replacement: where it starts, where the old text ended and where the new text
ends. -/
structure TextEdit where
  /-- The first byte replaced. -/
  startByte : Nat
  /-- The first byte after the old text. -/
  oldEndByte : Nat
  /-- The first byte after the new text. -/
  newEndByte : Nat
  /-- The point of `startByte`. -/
  start : Point
  /-- The point of `oldEndByte` in the old text. -/
  oldEnd : Point
  /-- The point of `newEndByte` in the new text. -/
  newEnd : Point
  deriving DecidableEq, Repr, Inhabited

/-- Why a text cannot be edited. -/
inductive EditError where
  /-- The range does not lie in the text. -/
  | invalidByteRange (startByte endByte length : Nat)
  deriving DecidableEq, Repr

/-- The wording of an edit error. -/
def EditError.message : EditError → String
  | .invalidByteRange s e n => s!"invalid byte range: [{s}, {e}) in source of length {n}"

namespace TextEdit

/-- Replaces the bytes from `start` to `oldEnd`. The result describes the replacement and holds
the new text. -/
def replace (old : Bytes) (start oldEnd : Nat) (newText : Bytes) :
    Except EditError (TextEdit × Bytes) :=
  if start ≤ oldEnd ∧ oldEnd ≤ old.length then
    let new := old.take start ++ newText ++ old.drop oldEnd
    let newEnd := start + newText.length
    .ok (⟨start, oldEnd, newEnd, pointAt old start, pointAt old oldEnd, pointAt new newEnd⟩, new)
  else
    .error (.invalidByteRange start oldEnd old.length)

/-- A byte offset after the edit: unchanged before it, shifted behind it, and at the end of the
new text when its byte was replaced. -/
def moveByte (e : TextEdit) (offset : Nat) : Nat :=
  if e.oldEndByte ≤ offset then offset - e.oldEndByte + e.newEndByte
  else if offset ≤ e.startByte then offset
  else e.newEndByte

/-- The point of a byte offset after the edit, moved as `moveByte` moves the offset. -/
def movePoint (e : TextEdit) (offset : Nat) (p : Point) : Point :=
  if e.oldEndByte ≤ offset then e.newEnd + (p - e.oldEnd)
  else if offset ≤ e.startByte then p
  else e.newEnd

/-- A range after the edit. -/
def moveRange (e : TextEdit) (r : Range) : Range :=
  ⟨e.moveByte r.startByte, e.moveByte r.endByte,
    e.movePoint r.startByte r.startPoint, e.movePoint r.endByte r.endPoint⟩

end TextEdit

end SyntaxForest
