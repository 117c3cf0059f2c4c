import SyntaxForest.Proofs.Text.Coordinates
import SyntaxForest.Proofs.Tree.Reached

/-!
# Error nodes and missing nodes

A tree has defects where the text could not be placed, at error nodes, and where text had to be
supplied, at missing nodes. They may be of any kind and at any depth, also below each other. Nodes
that carry one label are told apart by their paths; each defect is listed once, for its path, and
the list is in the order of the paths. In a tree that is laid out in the order of its text, this is
the order of the starts, missing nodes without text included, so the first defect in the list is the
first one in the text.

## Main definitions

* `Node.placed`: all nodes of a tree in preorder, each with its path

## Main results

* `Node.mem_placed_iff`, `Node.pairwise_placed`: each place of the tree occurs once, in the order of
  the paths
* `Node.exists_paths_of_defects`: the paths of the defects
* `Node.IsLaidOut.pairwise_startByte_defects`: defects come in the order of their starts
* `Node.IsLaidOut.row_le_of_head`: the first defect has the first row
-/

namespace SyntaxForest

namespace Node

mutual

/-- All nodes of a tree in preorder, each with the path to it. -/
def placed : Node → List (List Nat × Node)
  | mk l cs => ([], mk l cs) :: placedFrom 0 cs

/-- The nodes at and below the children of a node, the first of which has this index. -/
def placedFrom (i : Nat) : List Node → List (List Nat × Node)
  | [] => []
  | c :: cs => c.placed.map (fun q => (i :: q.1, q.2)) ++ placedFrom (i + 1) cs

end

theorem placed_eq (n : Node) : n.placed = ([], n) :: placedFrom 0 n.children := by
  cases n
  rfl

mutual

theorem map_snd_placed : ∀ n : Node, n.placed.map (·.2) = n.preorder
  | mk l cs => by rw [placed, preorder, List.map_cons, map_snd_placedFrom 0 cs]

theorem map_snd_placedFrom (i : Nat) :
    ∀ cs : List Node, (placedFrom i cs).map (·.2) = preorderAll cs
  | [] => rfl
  | c :: cs => by
    rw [placedFrom, preorderAll, List.map_append, map_snd_placedFrom (i + 1) cs, List.map_map,
      ← map_snd_placed c]
    rfl

end

/-! ## The places of a tree -/

section Places

variable {root n : Node} {cs : List Node} {i : Nat} {p path : List Nat}

theorem mem_placedFrom_iff :
    (path, n) ∈ placedFrom i cs ↔
      ∃ j p c, path = (i + j) :: p ∧ cs[j]? = some c ∧ (p, n) ∈ c.placed := by
  induction cs generalizing i with
  | nil => simp [placedFrom]
  | cons c cs ih =>
    rw [placedFrom, List.mem_append, ih, List.mem_map]
    constructor
    · rintro (⟨⟨p, m⟩, below, same⟩ | ⟨j, p, d, rfl, child, below⟩)
      · cases same
        exact ⟨0, p, c, rfl, rfl, below⟩
      · refine ⟨j + 1, p, d, ?_, child, below⟩
        rw [Nat.add_assoc, Nat.add_comm 1 j]
    · rintro ⟨_ | j, p, d, rfl, child, below⟩
      · obtain rfl := Option.some.inj child
        exact .inl ⟨_, below, rfl⟩
      · refine .inr ⟨j, p, d, ?_, child, below⟩
        rw [Nat.add_assoc, Nat.add_comm 1 j]

/-- **Every node of the tree is placed**, at the end of its path. -/
theorem mem_placed_iff : (p, n) ∈ root.placed ↔ root.at? p = some n := by
  -- The induction is on the way down along the path.
  induction p generalizing root with
  | nil =>
    rw [placed_eq, List.mem_cons, mem_placedFrom_iff]
    constructor
    · rintro (same | ⟨j, q, c, same, -⟩)
      · cases same
        rfl
      · cases same
    · intro same
      cases same
      exact .inl rfl
  | cons i p ih =>
    rw [placed_eq, List.mem_cons, mem_placedFrom_iff]
    constructor
    · rintro (same | ⟨j, q, c, same, child, below⟩)
      · cases same
      · rw [Nat.zero_add] at same
        cases same
        rw [at?_cons child]
        exact ih.mp below
    · intro place
      obtain ⟨c, child, below⟩ := exists_child_of_at?_cons place
      refine .inr ⟨i, p, c, ?_, child, ih.mpr below⟩
      rw [Nat.zero_add]

mutual

/-- **Preorder is the order of the paths.** -/
theorem pairwise_placed : ∀ n : Node, n.placed.Pairwise fun q r => q.1 < r.1
  | mk l cs => by
    rw [placed]
    refine List.pairwise_cons.mpr ⟨?_, pairwise_placedFrom 0 cs⟩
    intro q hq
    obtain ⟨j, p, c, same, -⟩ := mem_placedFrom_iff.mp (show (q.1, q.2) ∈ _ from hq)
    rw [same]
    exact List.nil_lt_cons _ _

/-- The nodes at and below children in turn come in the order of their paths. -/
theorem pairwise_placedFrom (i : Nat) :
    ∀ cs : List Node, (placedFrom i cs).Pairwise fun q r => q.1 < r.1
  | [] => .nil
  | c :: cs => by
    rw [placedFrom]
    refine List.pairwise_append.mpr ⟨?_, pairwise_placedFrom (i + 1) cs, ?_⟩
    · refine List.pairwise_map.mpr ((pairwise_placed c).imp ?_)
      intro q r less
      exact List.cons_lt_cons_iff.mpr (.inr ⟨rfl, less⟩)
    · -- Below an earlier child paths begin with a smaller index.
      intro q hq r hr
      obtain ⟨q', -, rfl⟩ := List.mem_map.mp hq
      obtain ⟨j, p, d, same, -⟩ := mem_placedFrom_iff.mp (show (r.1, r.2) ∈ _ from hr)
      rw [same]
      exact List.cons_lt_cons_iff.mpr (.inl (by omega))

end

end Places

/-! ## Defects -/

section Defects

variable {root : Node}

/-- The places of a tree's defects, in preorder. -/
def placedDefects (root : Node) : List (List Nat × Node) := root.placed.filter (·.2.isDefect)

theorem map_errorNode_placedDefects (root : Node) :
    root.placedDefects.map (·.2.errorNode) = root.defects := by
  rw [defects_eq, ← map_snd_placed, List.filter_map, List.map_map]
  rfl

theorem mem_placedDefects_iff {p : List Nat} {n : Node} :
    (p, n) ∈ root.placedDefects ↔ root.at? p = some n ∧ n.isDefect = true := by
  rw [placedDefects, List.mem_filter, mem_placed_iff]

/-- **The paths of the defects** are in strict order. Each node that is a defect is at the end of
one of them, and the list of defects tells at its place about this node. -/
theorem exists_paths_of_defects (root : Node) :
    ∃ paths : List (List Nat), paths.Pairwise (· < ·) ∧
      (∀ p, p ∈ paths ↔ ∃ n, root.at? p = some n ∧ n.isDefect = true) ∧
      root.defects.map some = paths.map fun p => (root.at? p).map errorNode := by
  refine ⟨root.placedDefects.map (·.1), ?_, ?_, ?_⟩
  · exact List.pairwise_map.mpr ((pairwise_placed root).filter _)
  · intro p
    rw [List.mem_map]
    constructor
    · rintro ⟨⟨p, n⟩, found, rfl⟩
      exact ⟨n, mem_placedDefects_iff.mp found⟩
    · rintro ⟨n, found⟩
      exact ⟨(p, n), mem_placedDefects_iff.mpr found, rfl⟩
  · rw [← map_errorNode_placedDefects, List.map_map, List.map_map]
    refine List.map_congr_left ?_
    rintro ⟨p, n⟩ found
    have place := (mem_placedDefects_iff.mp found).1
    show some n.errorNode = (root.at? p).map errorNode
    rw [place, Option.map_some]

namespace IsLaidOut

/-- **Defects come in the order of their starts**, in a tree that is laid out in the order of its
text. -/
theorem pairwise_startByte_defects (laidOut : root.IsLaidOut) :
    root.defects.Pairwise fun a b => a.byteStart ≤ b.byteStart := by
  rw [← map_errorNode_placedDefects]
  refine List.pairwise_map.mpr (((pairwise_placed root).filter _).imp_of_mem ?_)
  rintro ⟨p, n⟩ ⟨q, m⟩ hn hm before
  exact laidOut.startByte_le (mem_placedDefects_iff.mp hn).1 (mem_placedDefects_iff.mp hm).1 before

variable {first : ErrorNode} {rest : List ErrorNode} {p : List Nat} {n : Node}

/-- The first defect in the list starts where no other one starts earlier. -/
theorem startByte_le_of_head (laidOut : root.IsLaidOut) (head : root.defects = first :: rest)
    (place : root.at? p = some n) (defect : n.isDefect = true) :
    first.byteStart ≤ n.range.startByte := by
  have sorted := laidOut.pairwise_startByte_defects
  have listed : n.errorNode ∈ root.defects := by
    rw [← map_errorNode_placedDefects]
    exact List.mem_map_of_mem (f := (·.2.errorNode)) (mem_placedDefects_iff.mpr ⟨place, defect⟩)
  rw [head] at sorted listed
  rcases List.mem_cons.mp listed with same | later
  · exact Nat.le_of_eq (congrArg (·.byteStart) same.symm)
  · exact (List.pairwise_cons.mp sorted).1 _ later

/-- If the nodes have the points of their bytes, the first defect in the list has the first row. -/
theorem row_le_of_head (laidOut : root.IsLaidOut) (head : root.defects = first :: rest)
    (place : root.at? p = some n) (defect : n.isDefect = true) {source : Bytes}
    (points : ∀ m ∈ root.preorder, m.range.startPoint = pointAt source m.range.startByte) :
    first.startPoint.row ≤ n.range.startPoint.row := by
  have listed : first ∈ root.defects := head ▸ List.mem_cons_self
  rw [← map_errorNode_placedDefects] at listed
  obtain ⟨⟨q, m⟩, found, rfl⟩ := List.mem_map.mp listed
  have starts := laidOut.startByte_le_of_head head place defect
  have here := points m (mem_preorder_of_at? (mem_placedDefects_iff.mp found).1)
  have there := points n (mem_preorder_of_at? place)
  calc m.range.startPoint.row = (pointAt source m.range.startByte).row := by rw [here]
    _ ≤ (pointAt source n.range.startByte).row := row_pointAt_mono starts
    _ = n.range.startPoint.row := by rw [there]

end IsLaidOut

end Defects

end Node

end SyntaxForest
