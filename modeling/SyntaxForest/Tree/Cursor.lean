import SyntaxForest.Tree.Node

/-!
# Tree cursors

A cursor stands at a node of a tree and knows what lies to its right on every level. It moves to the
first child, to the next sibling and to the parent.

## Main definitions

* `TreeCursor`: a place in a tree
* `TreeCursor.firstChild?`, `TreeCursor.nextSibling?`, `TreeCursor.parent?`: the moves
* `TreeCursor.pending`: the number of nodes at the cursor, below it and to its right
-/

namespace SyntaxForest

/-- A place in a tree. -/
structure TreeCursor where
  /-- The node. -/
  node : Node
  /-- The siblings to the right of the node. -/
  siblings : List Node
  /-- The nodes above, the nearest first, each with the siblings to its right. -/
  above : List (Node × List Node)
  deriving Inhabited

namespace TreeCursor

/-- The place of the root of a tree. -/
def ofRoot (root : Node) : TreeCursor := ⟨root, [], []⟩

/-- The number of levels above the node. -/
def depth (c : TreeCursor) : Nat := c.above.length

/-- The first child. -/
def firstChild? (c : TreeCursor) : Option TreeCursor :=
  match c.node.children with
  | [] => none
  | child :: later => some ⟨child, later, (c.node, c.siblings) :: c.above⟩

/-- The next sibling. -/
def nextSibling? (c : TreeCursor) : Option TreeCursor :=
  match c.siblings with
  | [] => none
  | sibling :: later => some ⟨sibling, later, c.above⟩

/-- The parent. -/
def parent? (c : TreeCursor) : Option TreeCursor :=
  match c.above with
  | [] => none
  | (parent, siblings) :: above => some ⟨parent, siblings, above⟩

/-- The number of nodes of the subtrees to the right of nodes. -/
def pendingAbove : List (Node × List Node) → Nat
  | [] => 0
  | (_, siblings) :: above => Node.sizeAll siblings + pendingAbove above

/-- The number of nodes at the cursor, below it and to its right on every level. -/
def pending (c : TreeCursor) : Nat :=
  c.node.size + Node.sizeAll c.siblings + pendingAbove c.above

end TreeCursor

end SyntaxForest
