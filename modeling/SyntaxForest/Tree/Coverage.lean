import SyntaxForest.Text.Point

/-!
# Covering ranges

The parts of an anchor that none of its children covers. They are the bytes that a second grammar
may see: never an empty list, since an engine takes an empty list for the whole document.

## Main definitions

* `gaps`: the uncovered stretches from a cursor to the end of the anchor
* `coveringRanges`: the gaps, or the empty range at the anchor's end when there are none
* `Range.Ordered`: a list of ranges that an engine accepts
-/

namespace SyntaxForest

/-- The stretches between a cursor and the end of the anchor that no child covers. The cursor is
the furthest end of a child so far, so children may overlap, nest and come in any order. -/
def gaps (anchor : Range) (cursor : Nat) (point : Point) : List Range → List Range
  | [] =>
    if cursor < anchor.endByte then [⟨cursor, anchor.endByte, point, anchor.endPoint⟩] else []
  | child :: rest =>
    let later :=
      if cursor < child.endByte then gaps anchor child.endByte child.endPoint rest
      else gaps anchor cursor point rest
    if cursor < child.startByte then
      ⟨cursor, child.startByte, point, child.startPoint⟩ :: later
    else later

/-- The parts of `anchor` that no child covers. When nothing is left this is the single empty
range at the anchor's end. -/
def coveringRanges (anchor : Range) (children : List Range) : List Range :=
  match gaps anchor anchor.startByte anchor.startPoint children with
  | [] => [anchor.atEnd]
  | found => found

/-- The first range, counted from `index`, that starts before `previousEnd` or before the end of
the range ahead of it, or that ends before it starts. -/
def firstDisorder? (previousEnd index : Nat) : List Range → Option Nat
  | [] => none
  | r :: rest =>
    if r.startByte < previousEnd ∨ r.endByte < r.startByte then some index
    else firstDisorder? r.endByte (index + 1) rest

/-- The ranges are ordered, disjoint and none ends before it starts. -/
def Range.Ordered (ranges : List Range) : Prop := firstDisorder? 0 0 ranges = none

instance (ranges : List Range) : Decidable (Range.Ordered ranges) :=
  inferInstanceAs (Decidable (_ = _))

end SyntaxForest
