import Mathlib.Data.Set.Defs
import Mathlib.Tactic.ByContra
import SyntaxForest.Proofs.Tree.Coverage
import SyntaxForest.Tree.Node

/-!
# Nested trees

In a tree whose nodes hold their children, in order and apart from each other, a byte lies in the
nodes along one path only. A node is written here by the path to it, the list of the child indices
on the way down from the root, so that nodes with one label are told apart. Two paths part at a
node, and then the nodes at their ends lie in different children; or one goes on where the other
ends, and then the lower node lies in one child of the upper one. When that child is named, it is
not covered by the upper node's covering ranges.

## Main definitions

* `Range.ShareNoByte`: two lists of ranges without a byte in common
* `Node.at?`: the node at the end of a path
* `Node.IsNested`: a tree whose nodes hold their children, in order and apart
* `Node.NamedBelow`, `Node.NamedBetween`: named nodes on the way from one node down to another

## Main results

* `Node.IsNested.contains_of_at?`: a node holds the bytes of its descendants
* `Node.IsNested.shareNoByte`: two nodes with named nodes between them leave no byte uncovered twice
* `Node.namedBetween_of_leaves`: when anonymous nodes are leaves, all named nodes are such nodes
-/

namespace SyntaxForest

namespace Range

/-- No byte lies in both ranges. -/
def IsDisjoint (r q : Range) : Prop := ∀ b, ¬ (r.Contains b ∧ q.Contains b)

theorem isDisjoint_iff {r q : Range} :
    r.IsDisjoint q ↔ min r.endByte q.endByte ≤ max r.startByte q.startByte := by
  constructor
  · intro apart
    by_contra overlap
    refine apart (max r.startByte q.startByte) ⟨⟨?_, ?_⟩, ?_, ?_⟩ <;> omega
  · rintro apart b ⟨⟨starts, ends⟩, starts', ends'⟩
    omega

instance (r q : Range) : Decidable (r.IsDisjoint q) := decidable_of_iff _ isDisjoint_iff.symm

/-- No byte lies in a range of the one list and in a range of the other. -/
def ShareNoByte (ranges others : List Range) : Prop :=
  ∀ r ∈ ranges, ∀ q ∈ others, r.IsDisjoint q

instance (ranges others : List Range) : Decidable (ShareNoByte ranges others) :=
  inferInstanceAs (Decidable (∀ r ∈ ranges, _))

theorem ShareNoByte.symm {ranges others : List Range} (h : ShareNoByte ranges others) :
    ShareNoByte others ranges :=
  fun q hq r hr b both => h r hr q hq b both.symm

end Range

namespace Node

/-- The node at the end of a path, which takes the child of the next index from each node on. -/
def at? (n : Node) : List Nat → Option Node
  | [] => some n
  | i :: path =>
    match n.children[i]? with
    | some c => c.at? path
    | none => none

/-- Each node of the tree holds its children, which come in the order of their starts and have no
byte in common. -/
def IsNested (root : Node) : Prop :=
  ∀ n ∈ root.preorder, (∀ c ∈ n.children, c.range.LiesIn n.range) ∧
    n.children.Pairwise fun c d =>
      c.range.startByte ≤ d.range.startByte ∧ c.range.IsDisjoint d.range

instance (root : Node) : Decidable root.IsNested :=
  inferInstanceAs (Decidable (∀ n ∈ root.preorder, _))

/-- The nodes below the end of the path `p`, on the way down to the end of the path `q` and at that
end, are named. -/
def NamedBelow (root : Node) (p q : List Nat) : Prop :=
  ∀ r, p <+: r → r ≠ p → r <+: q → ∀ n, root.at? r = some n → n.isNamed = true

/-- Of two of these places one of which lies below the other, the lower one is named, and so are all
nodes between them. -/
def NamedBetween (root : Node) (places : Set (List Nat)) : Prop :=
  ∀ p ∈ places, ∀ q ∈ places, root.NamedBelow p q

/-! ## Paths -/

section Paths

variable {root n c : Node} {path : List Nat} {i : Nat}

theorem at?_cons (h : root.children[i]? = some c) : root.at? (i :: path) = c.at? path := by
  rw [at?, h]

theorem exists_child_of_at?_cons (h : root.at? (i :: path) = some n) :
    ∃ c, root.children[i]? = some c ∧ c.at? path = some n := by
  rw [at?] at h
  split at h
  next c hc => exact ⟨c, hc, h⟩
  next => cases h

/-- The nodes at the ends of paths are nodes of the tree. -/
theorem mem_preorder_of_at? (h : root.at? path = some n) : n ∈ root.preorder := by
  induction path generalizing root with
  | nil =>
    cases h
    exact n.self_mem_preorder
  | cons i path ih =>
    obtain ⟨c, hc, hn⟩ := exists_child_of_at?_cons h
    rw [preorder_eq]
    exact List.mem_cons_of_mem _ (preorder_subset_preorderAll (List.mem_of_getElem? hc) (ih hn))

theorem NamedBelow.child {p q : List Nat} (h : root.NamedBelow (i :: p) (i :: q))
    (hc : root.children[i]? = some c) : c.NamedBelow p q := by
  intro r below ne above n hn
  refine h (i :: r) (List.prefix_cons_inj i |>.mpr below) (fun same => ne (List.cons.inj same).2)
    (List.prefix_cons_inj i |>.mpr above) n ?_
  rw [at?_cons hc, hn]

/-- When anonymous nodes have no children, all nodes between named nodes are named. -/
theorem namedBetween_of_leaves (leaves : ∀ n ∈ root.preorder, n.isNamed = false → n.children = []) :
    root.NamedBetween {p | ∃ n, root.at? p = some n ∧ n.isNamed = true} := by
  rintro p - q ⟨m, hm, named⟩ r - - ⟨rest, rfl⟩ n hn
  -- Whatever lies below a node of the tree lies in one of its children.
  have reached : n.at? rest = some m := by
    clear named
    induction r generalizing root with
    | nil => cases hn; exact hm
    | cons i r ih =>
      obtain ⟨c, hc, hn⟩ := exists_child_of_at?_cons hn
      rw [List.cons_append, at?_cons hc] at hm
      refine ih (fun n hn => leaves n ?_) hm hn
      rw [preorder_eq]
      exact List.mem_cons_of_mem _ (preorder_subset_preorderAll (List.mem_of_getElem? hc) hn)
  cases rest with
  | nil =>
    cases reached
    exact named
  | cons i rest =>
    obtain ⟨c, hc, -⟩ := exists_child_of_at?_cons reached
    by_contra anonymous
    rw [leaves n (mem_preorder_of_at? hn) (by simpa using anonymous)] at hc
    cases hc

end Paths

/-! ## Bytes -/

namespace IsNested

variable {root n m c : Node} {p q : List Nat} {b : Nat}

theorem child (nested : root.IsNested) (hc : c ∈ root.children) : c.IsNested := by
  intro n hn
  refine nested n ?_
  rw [preorder_eq]
  exact List.mem_cons_of_mem _ (preorder_subset_preorderAll hc hn)

theorem of_at? (nested : root.IsNested) (h : root.at? p = some n) : n.IsNested := by
  induction p generalizing root with
  | nil =>
    cases h
    exact nested
  | cons i p ih =>
    obtain ⟨c, hc, hn⟩ := exists_child_of_at?_cons h
    exact ih (nested.child (List.mem_of_getElem? hc)) hn

/-- A node holds the bytes of its descendants. -/
theorem contains_of_at? (nested : root.IsNested) (h : root.at? p = some n)
    (inside : n.range.Contains b) : root.range.Contains b := by
  induction p generalizing root with
  | nil =>
    cases h
    exact inside
  | cons i p ih =>
    obtain ⟨c, hc, hn⟩ := exists_child_of_at?_cons h
    have child := List.mem_of_getElem? hc
    obtain ⟨starts, ends⟩ := ih (nested.child child) hn
    obtain ⟨first, -, last⟩ := (nested root root.self_mem_preorder).1 c child
    exact ⟨by omega, by omega⟩

/-- What a node leaves uncovered lies in it and in none of its named children. -/
theorem contains_of_mem_coveringRanges (nested : n.IsNested) {r : Range}
    (hr : r ∈ n.coveringRanges) (hb : r.Contains b) :
    n.range.Contains b ∧ ∀ c ∈ n.namedChildren, ¬ c.range.Contains b := by
  obtain ⟨inside, sorted⟩ := nested n n.self_mem_preorder
  have named : (n.namedChildren.map range).Pairwise (·.startByte ≤ ·.startByte) :=
    List.pairwise_map.mpr ((sorted.filter _).imp And.left)
  have within : ∀ q ∈ n.namedChildren.map range, q.LiesIn n.range := by
    intro q hq
    obtain ⟨c, hc, rfl⟩ := List.mem_map.mp hq
    exact inside c (List.mem_filter.mp hc).1
  obtain ⟨holds, apart⟩ := SyntaxForest.contains_of_mem_coveringRanges named within hr hb
  exact ⟨holds, fun c hc => apart c.range (List.mem_map_of_mem hc)⟩

/-- Children at different places have no byte in common. -/
theorem isDisjoint_children (nested : root.IsNested) {i j : Nat} {d : Node}
    (hc : root.children[i]? = some c) (hd : root.children[j]? = some d) (ne : i ≠ j) :
    c.range.IsDisjoint d.range := by
  have sorted := List.pairwise_iff_getElem.mp (nested root root.self_mem_preorder).2
  obtain ⟨hi, rfl⟩ := List.getElem?_eq_some_iff.mp hc
  obtain ⟨hj, rfl⟩ := List.getElem?_eq_some_iff.mp hd
  rcases Nat.lt_or_gt_of_ne ne with before | behind
  · exact (sorted i j hi hj before).2
  · exact fun b both => (sorted j i hj hi behind).2 b both.symm

/-- The bytes that a node leaves uncovered are not left uncovered below a named child of it. -/
theorem shareNoByte_below (nested : root.IsNested) {i : Nat} (hc : root.children[i]? = some c)
    (named : c.isNamed = true) (hm : c.at? q = some m) :
    Range.ShareNoByte root.coveringRanges m.coveringRanges := by
  rintro r hr s hs b ⟨left, below⟩
  have child := List.mem_of_getElem? hc
  have lower := nested.child child
  -- The byte would lie in the lower node, so in the child, which the upper one does not cover.
  have inside := ((lower.of_at? hm).contains_of_mem_coveringRanges hs below).1
  have apart := (nested.contains_of_mem_coveringRanges hr left).2
  exact apart c (List.mem_filter.mpr ⟨child, named⟩) (lower.contains_of_at? hm inside)

/-- **Two nodes leave no byte uncovered twice**, when the nodes from the one down to the other, if
it lies below, are named. -/
theorem shareNoByte (nested : root.IsNested) (hn : root.at? p = some n) (hm : root.at? q = some m)
    (ne : p ≠ q) (down : root.NamedBelow p q) (up : root.NamedBelow q p) :
    Range.ShareNoByte n.coveringRanges m.coveringRanges := by
  -- The induction is on the way down to where the paths part or one of them ends.
  induction p generalizing root q with
  | nil =>
    cases hn
    cases q with
    | nil => exact absurd rfl ne
    | cons j q =>
      -- The lower node lies in a child that is itself between the two, and so is named.
      obtain ⟨d, hd, lower⟩ := exists_child_of_at?_cons hm
      have named := down [j] List.nil_prefix nofun ⟨q, rfl⟩ d (at?_cons hd)
      exact nested.shareNoByte_below hd named lower
  | cons i p ih =>
    obtain ⟨c, hc, left⟩ := exists_child_of_at?_cons hn
    cases q with
    | nil =>
      cases hm
      have named := up [i] List.nil_prefix nofun ⟨p, rfl⟩ c (at?_cons hc)
      exact (nested.shareNoByte_below hc named left).symm
    | cons j q =>
      obtain ⟨d, hd, right⟩ := exists_child_of_at?_cons hm
      have first := nested.child (List.mem_of_getElem? hc)
      have second := nested.child (List.mem_of_getElem? hd)
      by_cases same : i = j
      · subst same
        obtain rfl := Option.some.inj (hc.symm.trans hd)
        refine ih first left right ?_ (down.child hc) (up.child hc)
        rintro rfl
        exact ne rfl
      · -- The nodes lie in children that have no byte in common.
        rintro r hr s hs b ⟨here, there⟩
        have inFirst := ((first.of_at? left).contains_of_mem_coveringRanges hr here).1
        have inSecond := ((second.of_at? right).contains_of_mem_coveringRanges hs there).1
        exact nested.isDisjoint_children hc hd same b
          ⟨first.contains_of_at? left inFirst, second.contains_of_at? right inSecond⟩

end IsNested

end Node

end SyntaxForest
