import SyntaxForest.Text.Ascii

/-!
# Rows and columns

A point locates a byte offset by its row and by its column in that row, both counted from zero and
the column in bytes. A range is a stretch of text in both coordinates.

## Main definitions

* `pointAt`: the point of an offset, the end of the text standing for every offset past it
* `Point.sub`, `Point.add`: the displacement from one point to a later one, and its use
-/

namespace SyntaxForest

/-- A row and a column in it, counted from zero; columns count bytes. -/
structure Point where
  /-- The number of line ends before the point. -/
  row : Nat
  /-- The number of bytes since the last of them. -/
  column : Nat
  deriving DecidableEq, Repr, Inhabited

namespace Point

/-- The start of a text. -/
def origin : Point := ⟨0, 0⟩

/-- The lexicographic order: by row, then by column. -/
instance : LT Point := ⟨fun p q => p.row < q.row ∨ (p.row = q.row ∧ p.column < q.column)⟩

instance (p q : Point) : Decidable (p < q) :=
  inferInstanceAs (Decidable (p.row < q.row ∨ (p.row = q.row ∧ p.column < q.column)))

/-- The displacement that leads from `q` to the later point `p`: rows apart and the column
reached, or columns apart in one row. -/
def sub (p q : Point) : Point :=
  if p.row = q.row then ⟨0, p.column - q.column⟩ else ⟨p.row - q.row, p.column⟩

/-- The point that a displacement leads to. -/
def add (p d : Point) : Point :=
  if 0 < d.row then ⟨p.row + d.row, d.column⟩ else ⟨p.row, p.column + d.column⟩

instance : Sub Point := ⟨sub⟩

instance : Add Point := ⟨add⟩

end Point

/-- The bytes since the last line end. -/
def lastLine (text : Bytes) : Bytes := (text.reverse.takeWhile (· ≠ Ascii.newline)).reverse

/-- The point of an offset. The row counts the line ends before the offset and the column the
bytes since the last of them; an offset past the end stands for the end. -/
def pointAt (source : Bytes) (offset : Nat) : Point :=
  let before := source.take offset
  ⟨before.count Ascii.newline, (lastLine before).length⟩

/-- Row and column depend on where the line ends are, and on no other byte. -/
theorem pointAt_congr {a b : Bytes}
    (h : a.map (· == Ascii.newline) = b.map (· == Ascii.newline)) (offset : Nat) :
    pointAt a offset = pointAt b offset := by
  have before := congrArg (List.take offset) h
  rw [← List.map_take, ← List.map_take] at before
  have row (text : Bytes) :
      text.count Ascii.newline = (text.map (· == Ascii.newline)).countP id := by
    rw [List.countP_map]
    rfl
  have column (text : Bytes) :
      (lastLine text).length = ((text.map (· == Ascii.newline)).reverse.takeWhile (!·)).length := by
    rw [lastLine, ← List.map_reverse, List.takeWhile_map, List.length_map, List.length_reverse]
    refine congrArg (fun p => (text.reverse.takeWhile p).length) (funext fun b => ?_)
    rw [Function.comp_apply, decide_not, Bool.beq_eq_decide_eq]
  simp only [pointAt]
  rw [row, row, column, column, before]

/-- A stretch of text in bytes and in points. -/
structure Range where
  /-- The first byte. -/
  startByte : Nat
  /-- The first byte after the stretch. -/
  endByte : Nat
  /-- The point of the first byte. -/
  startPoint : Point
  /-- The point of the first byte after the stretch. -/
  endPoint : Point
  deriving DecidableEq, Repr, Inhabited

namespace Range

/-- The bytes of a text that lie in the range: none when it reaches past the end. -/
def text (r : Range) (source : Bytes) : Bytes :=
  if r.startByte ≤ r.endByte ∧ r.endByte ≤ source.length then
    (source.drop r.startByte).take (r.endByte - r.startByte)
  else []

/-- The empty range where this one ends. -/
def atEnd (r : Range) : Range := ⟨r.endByte, r.endByte, r.endPoint, r.endPoint⟩

end Range

end SyntaxForest
