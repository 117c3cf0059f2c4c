import SyntaxForest.Text.Edit
import SyntaxForest.Tree.Coverage

/-!
# Syntax trees

A node is a label with children in document order. Nodes carry an identity, by which a composite
document finds what is anchored at them; a named node stands for a rule of the grammar, the others
for literal text.

## Main definitions

* `Node`, `Node.Label`: trees and what they carry at a node
* `Node.preorder`: all nodes, each before its descendants
* `Node.defects`: the errors in the tree
* `Node.ofPreorder`: the tree with a given preorder, written with depths
* `SyntaxTree`: the tree of one document, with its printed form
-/

namespace SyntaxForest

/-- What a node carries. -/
structure Node.Label where
  /-- The node's identity in its tree. -/
  id : Nat
  /-- The kind that the grammar gives it. -/
  kind : String
  /-- Whether the node stands for a rule of the grammar. -/
  isNamed : Bool
  /-- Whether the node holds text that the grammar could not place. -/
  isError : Bool
  /-- Whether the node was supplied to recover from an error. -/
  isMissing : Bool
  /-- The text the node spans. -/
  range : Range
  /-- The field of its parent that the node fills. -/
  field : Option String
  deriving DecidableEq, Repr, Inhabited

/-- What is told about a node that is an error or was supplied to recover from one. -/
structure ErrorNode where
  /-- The first byte of the node. -/
  byteStart : Nat
  /-- The first byte after the node. -/
  byteEnd : Nat
  /-- The point of the first byte. -/
  startPoint : Point
  /-- The point of the first byte after the node. -/
  endPoint : Point
  /-- Whether the node was supplied to recover from an error. -/
  isMissing : Bool
  deriving DecidableEq, Repr, Inhabited

/-- A node of a syntax tree. -/
inductive Node where
  | mk (label : Node.Label) (children : List Node)
  deriving Inhabited

namespace Node

/-- What the node carries. -/
def label : Node → Label
  | mk l _ => l

/-- The children, in document order. -/
def children : Node → List Node
  | mk _ cs => cs

/-- The node's identity. -/
def id (n : Node) : Nat := n.label.id

/-- The node's kind. -/
def kind (n : Node) : String := n.label.kind

/-- Whether the node stands for a rule of the grammar. -/
def isNamed (n : Node) : Bool := n.label.isNamed

/-- The text the node spans. -/
def range (n : Node) : Range := n.label.range

/-- The children that stand for rules of the grammar. -/
def namedChildren (n : Node) : List Node := n.children.filter isNamed

mutual

/-- All nodes of the tree, each before its descendants. -/
def preorder : Node → List Node
  | mk l cs => mk l cs :: preorderAll cs

/-- All nodes of several trees, tree by tree. -/
def preorderAll : List Node → List Node
  | [] => []
  | c :: cs => c.preorder ++ preorderAll cs

end

theorem preorder_eq (n : Node) : n.preorder = n :: preorderAll n.children := by
  cases n
  simp [preorder, children]

theorem self_mem_preorder (n : Node) : n ∈ n.preorder := by
  rw [preorder_eq]
  exact List.mem_cons_self

theorem preorder_subset_preorderAll {n : Node} {ns : List Node} (hn : n ∈ ns) {m : Node}
    (hm : m ∈ n.preorder) : m ∈ preorderAll ns := by
  induction ns with
  | nil => cases hn
  | cons c cs ih =>
    rw [preorderAll, List.mem_append]
    rcases List.mem_cons.mp hn with rfl | hn
    · exact .inl hm
    · exact .inr (ih hn)

mutual

/-- The children of a tree's nodes are nodes of the tree. -/
theorem child_mem_preorder {n c : Node} (hc : c ∈ n.children) :
    ∀ {root : Node}, n ∈ root.preorder → c ∈ root.preorder
  | mk l cs, h => by
    rw [preorder, List.mem_cons] at h ⊢
    rcases h with rfl | h
    · exact .inr (preorder_subset_preorderAll hc c.self_mem_preorder)
    · exact .inr (child_mem_preorderAll hc h)

/-- The children of several trees' nodes are nodes of these trees. -/
theorem child_mem_preorderAll {n c : Node} (hc : c ∈ n.children) :
    ∀ {ns : List Node}, n ∈ preorderAll ns → c ∈ preorderAll ns
  | [], h => by simp [preorderAll] at h
  | root :: ns, h => by
    rw [preorderAll, List.mem_append] at h ⊢
    rcases h with h | h
    · exact .inl (child_mem_preorder hc h)
    · exact .inr (child_mem_preorderAll hc h)

end

mutual

/-- The number of nodes. -/
def size : Node → Nat
  | mk _ cs => sizeAll cs + 1

/-- The number of nodes of several trees. -/
def sizeAll : List Node → Nat
  | [] => 0
  | c :: cs => c.size + sizeAll cs

end

theorem size_eq (n : Node) : n.size = sizeAll n.children + 1 := by
  cases n
  simp [size, children]

mutual

/-- The same tree with each label replaced. -/
def mapLabel (f : Label → Label) : Node → Node
  | mk l cs => mk (f l) (mapLabelAll f cs)

/-- The same trees with each label replaced. -/
def mapLabelAll (f : Label → Label) : List Node → List Node
  | [] => []
  | c :: cs => c.mapLabel f :: mapLabelAll f cs

end

/-- The tree with its nodes moved along with an edit of the text: every node keeps its place. -/
def moved (n : Node) (e : TextEdit) : Node :=
  n.mapLabel fun l => { l with range := e.moveRange l.range }

mutual

theorem preorder_mapLabel (f : Label → Label) :
    ∀ n : Node, (n.mapLabel f).preorder = n.preorder.map (mapLabel f)
  | mk l cs => by
    rw [mapLabel, preorder, preorder, preorderAll_mapLabelAll f cs, List.map_cons, mapLabel]

theorem preorderAll_mapLabelAll (f : Label → Label) :
    ∀ ns : List Node, preorderAll (mapLabelAll f ns) = (preorderAll ns).map (mapLabel f)
  | [] => rfl
  | c :: cs => by
    rw [mapLabelAll, preorderAll, preorderAll, preorder_mapLabel f c, preorderAll_mapLabelAll f cs,
      List.map_append]

end

/-- The nodes of the tree and their order stay when they are moved. -/
theorem preorder_moved (n : Node) (e : TextEdit) :
    (n.moved e).preorder = n.preorder.map (·.moved e) :=
  preorder_mapLabel _ n

theorem range_moved (n : Node) (e : TextEdit) : (n.moved e).range = e.moveRange n.range := by
  cases n
  rfl

/-- The ranges of the node that its named children leave uncovered. -/
def coveringRanges (n : Node) : List Range :=
  SyntaxForest.coveringRanges n.range (n.namedChildren.map range)

/-- Whether the node is an error or was supplied to recover from one. -/
def isDefect (n : Node) : Bool := n.label.isError || n.label.isMissing

/-- What is told about an error node. -/
def errorNode (n : Node) : ErrorNode where
  byteStart := n.range.startByte
  byteEnd := n.range.endByte
  startPoint := n.range.startPoint
  endPoint := n.range.endPoint
  isMissing := n.label.isMissing

mutual

/-- Adds the errors of a tree to those found before: the node's own, then those below it. -/
def collectDefects : Node → List ErrorNode → List ErrorNode
  | mk l cs, found =>
    collectDefectsAll cs (if (mk l cs).isDefect then found ++ [(mk l cs).errorNode] else found)

/-- Adds the errors of several trees, tree by tree. -/
def collectDefectsAll : List Node → List ErrorNode → List ErrorNode
  | [], found => found
  | c :: cs, found => collectDefectsAll cs (c.collectDefects found)

end

/-- The error nodes and the missing nodes of the tree, each before its descendants. -/
def defects (n : Node) : List ErrorNode := n.collectDefects []

mutual

theorem collectDefects_eq : ∀ (n : Node) (found : List ErrorNode),
    n.collectDefects found = found ++ (n.preorder.filter isDefect).map errorNode
  | mk l cs, found => by
    rw [collectDefects, preorder, List.filter_cons, collectDefectsAll_eq cs]
    split
    · rw [List.map_cons, List.append_assoc, List.singleton_append]
    · rfl

theorem collectDefectsAll_eq : ∀ (ns : List Node) (found : List ErrorNode),
    collectDefectsAll ns found = found ++ ((preorderAll ns).filter isDefect).map errorNode
  | [], found => by simp [collectDefectsAll, preorderAll]
  | c :: cs, found => by
    rw [collectDefectsAll, preorderAll, List.filter_append, List.map_append,
      collectDefectsAll_eq cs, collectDefects_eq c, List.append_assoc]

end

/-- **The errors are those of the preorder.** -/
theorem defects_eq (n : Node) : n.defects = (n.preorder.filter isDefect).map errorNode :=
  collectDefects_eq n []

/-- The node reached by taking, from each node on, the named child of the next index. -/
def descend? (n : Node) : List Nat → Option Node
  | [] => some n
  | i :: path =>
    match n.namedChildren[i]? with
    | some c => c.descend? path
    | none => none

/-- Puts a node before trees that follow it in preorder: the trees that stand deeper become its
children. -/
def adopt (depth : Nat) (l : Label) (later : List (Nat × Node)) : List (Nat × Node) :=
  (depth, mk l ((later.takeWhile (depth < ·.1)).map (·.2))) :: later.dropWhile (depth < ·.1)

/-- The trees whose nodes, in preorder, have these depths and labels. A node's children are the
nodes that follow it at greater depth, down to the next one that stands no deeper than it. -/
def ofPreorder (rows : List (Nat × Label)) : List Node :=
  (rows.foldr (fun row later => adopt row.1 row.2 later) []).map (·.2)

end Node

/-- The tree of one document. -/
structure SyntaxTree where
  /-- The root of the tree. -/
  root : Node
  /-- The tree printed as a symbolic expression. -/
  sexp : String
  /-- Whether a node of the tree is an error or was supplied to recover from one. -/
  hasErrors : Bool
  deriving Inhabited

/-- The tree with its nodes moved along with an edit of the text. -/
def SyntaxTree.moved (t : SyntaxTree) (e : TextEdit) : SyntaxTree :=
  { t with root := t.root.moved e }

end SyntaxForest
