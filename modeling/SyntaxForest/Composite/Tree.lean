import SyntaxForest.Engine

/-!
# Composite trees

A document of two grammars is a primary tree with secondary trees, each of which was parsed from the
bytes of one region. A region is anchored at a node of the primary tree and holds the bytes of that
node that none of its named children covers. An index leads from a node to the last of the regions
that are anchored at it.

## Main definitions

* `Region`: where a secondary tree comes from
* `AnchorIndex`: the regions under the identities of their nodes
* `CompositeTree`: the trees of one document
* `CompositeTree.secondaryTree?`: the secondary tree anchored at a node
-/

namespace SyntaxForest

/-- Where a secondary tree comes from. -/
structure Region where
  /-- The identity of the node that it is anchored at. -/
  anchor : Nat
  /-- The range of that node. -/
  anchorRange : Range
  /-- The bytes that the second grammar may see. -/
  ranges : List Range
  deriving DecidableEq, Repr, Inhabited

/-- The region of a node: what its named children leave uncovered. -/
def Region.ofNode (n : Node) : Region := ⟨n.id, n.range, n.coveringRanges⟩

/-- A secondary tree with the region that it was parsed from. -/
structure SecondaryTree where
  /-- The tree. -/
  tree : SyntaxTree
  /-- The region. -/
  region : Region
  /-- The position of the region among those of the document. -/
  ordinal : Nat
  /-- Whether the parse began with an older tree. -/
  isReused : Bool
  deriving Inhabited

/-- The root of the tree. -/
def SecondaryTree.root (s : SecondaryTree) : Node := s.tree.root

/-- The tree after an edit of its text. The region stays as it was parsed. -/
def SecondaryTree.edit {σ : Type} (engine : Engine σ) (e : TextEdit) (s : SecondaryTree) :
    SecondaryTree :=
  { s with tree := engine.edit s.tree e }

/-- Ordinals of regions, under the identities of the nodes that the regions are anchored at. -/
structure AnchorIndex where
  /-- The entries, the latest first. -/
  entries : List (Nat × Nat) := []
  deriving DecidableEq, Repr

namespace AnchorIndex

/-- The ordinal under an identity. -/
def find? (index : AnchorIndex) (anchor : Nat) : Option Nat :=
  (index.entries.find? (·.1 = anchor)).map (·.2)

/-- Puts an ordinal under an identity, in place of the one that was there. -/
def insert (index : AnchorIndex) (anchor ordinal : Nat) : AnchorIndex :=
  ⟨(anchor, ordinal) :: index.entries.filter (·.1 ≠ anchor)⟩

/-- The index of regions that are entered in turn. -/
def ofRegions (regions : List Region) : AnchorIndex :=
  regions.zipIdx.foldl (fun index region => index.insert region.1.anchor region.2) {}

end AnchorIndex

/-- A primary tree with the secondary trees anchored in it. -/
structure CompositeTree where
  /-- The tree of the whole document. -/
  primary : SyntaxTree
  /-- The trees of its regions, in the order of the regions. -/
  secondaries : List SecondaryTree
  /-- The regions under their nodes. -/
  index : AnchorIndex
  /-- The index is that of these regions. -/
  indexed : index = .ofRegions (secondaries.map (·.region))

namespace CompositeTree

/-- A primary tree with secondary trees, whose regions are entered in the index. -/
def of (primary : SyntaxTree) (secondaries : List SecondaryTree) : CompositeTree :=
  ⟨primary, secondaries, .ofRegions (secondaries.map (·.region)), rfl⟩

@[simp] theorem primary_of (primary : SyntaxTree) (secondaries : List SecondaryTree) :
    (of primary secondaries).primary = primary := rfl

@[simp] theorem secondaries_of (primary : SyntaxTree) (secondaries : List SecondaryTree) :
    (of primary secondaries).secondaries = secondaries := rfl

instance : Inhabited CompositeTree := ⟨of default []⟩

/-- Composites of the same trees have the same index. -/
theorem eq_of_trees {a b : CompositeTree} (primary : a.primary = b.primary)
    (secondaries : a.secondaries = b.secondaries) : a = b := by
  obtain ⟨_, _, _, rfl⟩ := a
  obtain ⟨_, _, _, rfl⟩ := b
  cases primary
  cases secondaries
  rfl

/-- The root of the primary tree. -/
def root (c : CompositeTree) : Node := c.primary.root

/-- The secondary tree anchored at a node. -/
def secondaryTree? (c : CompositeTree) (node : Node) : Option SecondaryTree :=
  (c.index.find? node.id).bind (c.secondaries[·]?)

/-- The root of the secondary tree anchored at a node. -/
def secondaryRoot? (c : CompositeTree) (node : Node) : Option Node :=
  (c.secondaryTree? node).map (·.root)

/-- The trees after an edit of the document. The index stays as it was. -/
def edit {σ : Type} (engine : Engine σ) (e : TextEdit) (c : CompositeTree) : CompositeTree where
  primary := engine.edit c.primary e
  secondaries := c.secondaries.map (·.edit engine e)
  index := c.index
  indexed := by
    rw [c.indexed, List.map_map]
    rfl

end CompositeTree

end SyntaxForest
