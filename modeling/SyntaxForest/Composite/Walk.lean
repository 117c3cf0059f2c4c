import SyntaxForest.Composite.Tree

/-!
# Walking a composite tree

A walk visits the named nodes of the primary tree, each before its descendants, and shows beside
each the root of the secondary tree anchored at it. It keeps a stack of nodes to visit, so a caller
may stop at any of them.

## Main definitions

* `visitNamed`: the nodes that a walk with this stack visits
* `CompositeTree.walk`: the walk from the root
-/

namespace SyntaxForest

namespace Node

@[simp] theorem sizeAll_append (a b : List Node) : sizeAll (a ++ b) = sizeAll a + sizeAll b := by
  induction a with
  | nil => simp [sizeAll]
  | cons n a ih => simp [sizeAll, ih, Nat.add_assoc]

theorem sizeAll_filter_le (p : Node → Bool) (ns : List Node) :
    sizeAll (ns.filter p) ≤ sizeAll ns := by
  induction ns with
  | nil => simp [sizeAll]
  | cons n ns ih =>
    rw [List.filter_cons]
    split
    · simp only [sizeAll]
      omega
    · simp only [sizeAll]
      omega

theorem sizeAll_namedChildren_lt (n : Node) : sizeAll n.namedChildren < n.size := by
  have := sizeAll_filter_le isNamed n.children
  rw [size_eq, namedChildren]
  omega

end Node

/-- The nodes that a walk visits when these are on its stack, the next one first. -/
def visitNamed : List Node → List Node
  | [] => []
  | node :: stack => node :: visitNamed (node.namedChildren ++ stack)
termination_by stack => Node.sizeAll stack
decreasing_by
  have := Node.sizeAll_namedChildren_lt node
  simp only [Node.sizeAll_append, Node.sizeAll]
  omega

/-- A node of the primary tree with the root of the secondary tree anchored at it. -/
structure CompositeNode where
  /-- The node. -/
  node : Node
  /-- The root of its secondary tree. -/
  secondary : Option Node
  deriving Inhabited

/-- Visits the named nodes of the primary tree, each before its descendants. -/
def CompositeTree.walk (c : CompositeTree) : List CompositeNode :=
  (visitNamed [c.root]).map fun node => ⟨node, c.secondaryRoot? node⟩

end SyntaxForest
