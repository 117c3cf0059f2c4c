import SyntaxForest.Composite.Walk
import SyntaxForest.Proofs.Tree.Nesting

/-!
# Nodes reached over named children

From the root of a tree some nodes are reached by going down to named children only: those that are
named and have none but named nodes above them, the root apart. Their paths, in lexicographic order,
are the order in which a walk with a stack visits them. In a tree that is laid out in the order of
its text, that is also the order of the starts of the nodes.

## Main definitions

* `Node.reached`: the nodes reached over named children, each with its path, in preorder
* `Node.IsLaidOut`: a tree whose nodes hold their children, one behind the other

## Main results

* `Node.mem_reached_iff`: which nodes are reached
* `Node.pairwise_reached`: each is reached once, in the order of the paths
* `Node.exists_parent_of_getElem?_reached`: each comes behind its parent
* `visitNamed_eq_flatMap`: a walk with a stack visits what is reached from the nodes on it
* `Node.IsLaidOut.startByte_le`: the order of paths is the order of starts
-/

namespace SyntaxForest

namespace Node

mutual

/-- The nodes reached from a node by going down to named children, each with the path to it, in
preorder. -/
def reached : Node → List (List Nat × Node)
  | mk l cs => ([], mk l cs) :: reachedFrom 0 cs

/-- The nodes reached over those children of a node that are named, the first child having this
index. -/
def reachedFrom (i : Nat) : List Node → List (List Nat × Node)
  | [] => []
  | c :: cs =>
    (if c.isNamed then c.reached.map fun q => (i :: q.1, q.2) else []) ++ reachedFrom (i + 1) cs

end

theorem reached_eq (n : Node) : n.reached = ([], n) :: reachedFrom 0 n.children := by
  cases n
  rfl

/-! ## The paths of the reached nodes -/

section

variable {root n c : Node} {cs : List Node} {i : Nat} {p path : List Nat}

/-- Below a child lie the nodes that are reached from it, if it is named. -/
theorem mem_reachedFrom_iff :
    (path, n) ∈ reachedFrom i cs ↔ ∃ j p c, path = (i + j) :: p ∧ cs[j]? = some c ∧
      c.isNamed = true ∧ (p, n) ∈ c.reached := by
  induction cs generalizing i with
  | nil => simp [reachedFrom]
  | cons c cs ih =>
    rw [reachedFrom, List.mem_append, ih]
    constructor
    · rintro (first | ⟨j, p, d, rfl, child, rest⟩)
      · split at first
        next named =>
          obtain ⟨⟨p, m⟩, below, same⟩ := List.mem_map.mp first
          cases same
          exact ⟨0, p, c, rfl, rfl, named, below⟩
        next => cases first
      · refine ⟨j + 1, p, d, ?_, child, rest⟩
        rw [Nat.add_assoc, Nat.add_comm 1 j]
    · rintro ⟨_ | j, p, d, rfl, child, named, below⟩
      · obtain rfl := Option.some.inj child
        rw [if_pos named]
        exact .inl (List.mem_map.mpr ⟨_, below, rfl⟩)
      · refine .inr ⟨j, p, d, ?_, child, named, below⟩
        rw [Nat.add_assoc, Nat.add_comm 1 j]

/-- The nodes on the way down to a path are named when the first of them is and those below
it are. -/
theorem namedBelow_cons_iff (hc : root.children[i]? = some c) :
    root.NamedBelow [] (i :: p) ↔ c.isNamed = true ∧ c.NamedBelow [] p := by
  constructor
  · intro named
    refine ⟨named [i] List.nil_prefix nofun ⟨p, rfl⟩ c (at?_cons hc), ?_⟩
    refine NamedBelow.child (fun r below _ above => named r List.nil_prefix ?_ above) hc
    rintro rfl
    cases List.prefix_nil.mp below
  · rintro ⟨named, below⟩ r - ne above m hm
    cases r with
    | nil => exact absurd rfl ne
    | cons j r =>
      obtain ⟨rfl, rest⟩ := List.cons_prefix_cons.mp above
      rw [at?_cons hc] at hm
      cases r with
      | nil =>
        cases hm
        exact named
      | cons k r => exact below (k :: r) List.nil_prefix nofun rest m hm

/-- **Which nodes are reached**: the root, and every other node that is named and has none but named
nodes above it, the root apart. -/
theorem mem_reached_iff :
    (p, n) ∈ root.reached ↔ root.at? p = some n ∧ root.NamedBelow [] p := by
  induction p generalizing root with
  | nil =>
    rw [reached_eq, List.mem_cons, mem_reachedFrom_iff]
    constructor
    · rintro (same | ⟨j, q, c, same, -⟩)
      · cases same
        exact ⟨rfl, fun r _ ne above => absurd (List.prefix_nil.mp above) ne⟩
      · cases same
    · rintro ⟨same, -⟩
      cases same
      exact .inl rfl
  | cons i p ih =>
    rw [reached_eq, List.mem_cons, mem_reachedFrom_iff]
    constructor
    · rintro (same | ⟨j, q, c, same, child, named, below⟩)
      · cases same
      · rw [Nat.zero_add] at same
        cases same
        obtain ⟨place, further⟩ := ih.mp below
        exact ⟨(at?_cons child).trans place, (namedBelow_cons_iff child).mpr ⟨named, further⟩⟩
    · rintro ⟨place, named⟩
      obtain ⟨c, child, place⟩ := exists_child_of_at?_cons place
      obtain ⟨first, further⟩ := (namedBelow_cons_iff child).mp named
      refine .inr ⟨i, p, c, ?_, child, first, ih.mpr ⟨place, further⟩⟩
      rw [Nat.zero_add]

end

/-! ## The order of the reached nodes -/

mutual

/-- **The reached nodes come in the order of their paths**, each once. -/
theorem pairwise_reached : ∀ n : Node, n.reached.Pairwise fun q r => q.1 < r.1
  | mk l cs => by
    rw [reached]
    refine List.pairwise_cons.mpr ⟨fun q hq => ?_, pairwise_reachedFrom 0 cs⟩
    obtain ⟨j, p, c, same, -⟩ := mem_reachedFrom_iff.mp (show (q.1, q.2) ∈ _ from hq)
    rw [same]
    exact List.nil_lt_cons _ _

/-- The nodes reached over children in turn come in the order of their paths. -/
theorem pairwise_reachedFrom (i : Nat) :
    ∀ cs : List Node, (reachedFrom i cs).Pairwise fun q r => q.1 < r.1
  | [] => .nil
  | c :: cs => by
    rw [reachedFrom]
    refine List.pairwise_append.mpr ⟨?_, pairwise_reachedFrom (i + 1) cs, fun q hq r hr => ?_⟩
    · split
      next =>
        refine List.pairwise_map.mpr ((pairwise_reached c).imp fun less => ?_)
        exact List.cons_lt_cons_iff.mpr (.inr ⟨rfl, less⟩)
      next => exact .nil
    · -- Below an earlier child paths begin with a smaller index.
      split at hq
      next =>
        obtain ⟨q', -, rfl⟩ := List.mem_map.mp hq
        obtain ⟨j, p, d, same, -⟩ := mem_reachedFrom_iff.mp (show (r.1, r.2) ∈ _ from hr)
        rw [same]
        exact List.cons_lt_cons_iff.mpr (.inl (by omega))
      next => cases hq

end

section

variable {root n : Node} {p : List Nat}

/-- The node at the end of a path, from the node at the end of its beginning. -/
theorem at?_append (root : Node) (p r : List Nat) :
    root.at? (p ++ r) = (root.at? p).bind (·.at? r) := by
  induction p generalizing root with
  | nil => rfl
  | cons i p ih =>
    rw [List.cons_append, at?, at?]
    cases root.children[i]? with
    | none => rfl
    | some c => exact ih c

theorem lt_append_singleton (p : List Nat) (i : Nat) : p < p ++ [i] := by
  induction p with
  | nil => exact List.nil_lt_cons _ _
  | cons j p ih => exact List.cons_lt_cons_iff.mpr (.inr ⟨rfl, ih⟩)

/-- **Each reached node comes behind its parent**, of which it is a named child, the root apart. -/
theorem exists_parent_of_getElem?_reached {k : Nat} (place : root.reached[k]? = some (p, n))
    (behind : 0 < k) :
    ∃ j < k, ∃ q m i, root.reached[j]? = some (q, m) ∧ p = q ++ [i] ∧ m.children[i]? = some n ∧
      n.isNamed = true := by
  have order := List.pairwise_iff_getElem.mp (pairwise_reached root)
  obtain ⟨inside, atK⟩ := List.getElem?_eq_some_iff.mp place
  obtain ⟨reaches, named⟩ := mem_reached_iff.mp (List.mem_of_getElem? place)
  rcases List.eq_nil_or_concat p with rfl | ⟨q, i, rfl⟩
  · -- Only the first path is empty.
    have later := order 0 k (by omega) inside behind
    rw [atK] at later
    exact absurd later (List.not_lt_nil _)
  · rw [List.concat_eq_append] at *
    obtain ⟨m, above, child⟩ := Option.bind_eq_some_iff.mp (at?_append root q [i] ▸ reaches)
    obtain ⟨c, isChild, same⟩ := exists_child_of_at?_cons child
    cases same
    have up : root.NamedBelow [] q := fun r below ne prefix_q =>
      named r below ne (prefix_q.trans (List.prefix_append q [i]))
    obtain ⟨j, atJ⟩ := List.getElem?_of_mem (mem_reached_iff.mpr ⟨above, up⟩)
    obtain ⟨insideJ, valueJ⟩ := List.getElem?_eq_some_iff.mp atJ
    have less := lt_append_singleton q i
    refine ⟨j, ?_, q, m, i, atJ, rfl, isChild, named _ List.nil_prefix (by simp)
      (List.prefix_refl _)
      n reaches⟩
    by_contra after
    rcases Nat.eq_or_lt_of_le (Nat.not_lt.mp after) with rfl | after
    · have same := congrArg (·.1.length) (atK.symm.trans valueJ)
      simp at same
    · have turned := order k j inside insideJ after
      rw [atK, valueJ] at turned
      exact List.lt_asymm less turned

end

/-! ## The order of the text -/

/-- Each node of the tree holds its children, and each child ends before the next one starts, or
where it starts. A child without text may not stand inside the one before it, as it may in a nested
tree. -/
def IsLaidOut (root : Node) : Prop :=
  ∀ n ∈ root.preorder, (∀ c ∈ n.children, c.range.LiesIn n.range) ∧
    n.children.Pairwise fun c d => c.range.endByte ≤ d.range.startByte

instance (root : Node) : Decidable root.IsLaidOut :=
  inferInstanceAs (Decidable (∀ n ∈ root.preorder, _))

namespace IsLaidOut

variable {root n m c : Node} {p q : List Nat}

theorem child (laidOut : root.IsLaidOut) (hc : c ∈ root.children) : c.IsLaidOut := by
  intro n hn
  refine laidOut n ?_
  rw [preorder_eq]
  exact List.mem_cons_of_mem _ (preorder_subset_preorderAll hc hn)

/-- What lies below a node that does not end before it starts lies in it. -/
theorem liesIn_of_at? (laidOut : root.IsLaidOut)
    (proper : root.range.startByte ≤ root.range.endByte) (h : root.at? p = some n) :
    n.range.LiesIn root.range := by
  induction p generalizing root with
  | nil =>
    cases h
    exact ⟨Nat.le_refl _, proper, Nat.le_refl _⟩
  | cons i p ih =>
    obtain ⟨c, hc, below⟩ := exists_child_of_at?_cons h
    have isChild := List.mem_of_getElem? hc
    obtain ⟨first, ordered, last⟩ := (laidOut root root.self_mem_preorder).1 c isChild
    obtain ⟨first', ordered', last'⟩ := ih (laidOut.child isChild) ordered below
    exact ⟨by omega, ordered', by omega⟩

/-- **The order of paths is the order of starts.** A node at a later path does not start earlier. -/
theorem startByte_le (laidOut : root.IsLaidOut) (hn : root.at? p = some n)
    (hm : root.at? q = some m) (before : p < q) : n.range.startByte ≤ m.range.startByte := by
  -- The induction is on the way down to where the paths part or the first of them ends.
  induction p generalizing root q with
  | nil =>
    cases hn
    cases q with
    | nil => exact absurd before (List.not_lt_nil _)
    | cons j q =>
      obtain ⟨d, hd, below⟩ := exists_child_of_at?_cons hm
      have isChild := List.mem_of_getElem? hd
      obtain ⟨first, ordered, -⟩ := (laidOut n n.self_mem_preorder).1 d isChild
      exact Nat.le_trans first ((laidOut.child isChild).liesIn_of_at? ordered below).1
  | cons i p ih =>
    cases q with
    | nil => exact absurd before (List.not_lt_nil _)
    | cons j q =>
      obtain ⟨c, hc, left⟩ := exists_child_of_at?_cons hn
      obtain ⟨d, hd, right⟩ := exists_child_of_at?_cons hm
      obtain ⟨insideC, atI⟩ := List.getElem?_eq_some_iff.mp hc
      obtain ⟨insideD, atJ⟩ := List.getElem?_eq_some_iff.mp hd
      have first := List.mem_of_getElem? hc
      have second := List.mem_of_getElem? hd
      obtain ⟨holds, sorted⟩ := laidOut root root.self_mem_preorder
      rcases List.cons_lt_cons_iff.mp before with apart | ⟨rfl, further⟩
      · -- The first node starts in a child that ends before the child of the second one starts.
        have gap := List.pairwise_iff_getElem.mp sorted i j insideC insideD apart
        rw [atI, atJ] at gap
        have inFirst := (laidOut.child first).liesIn_of_at? (holds c first).2.1 left
        have inSecond := (laidOut.child second).liesIn_of_at? (holds d second).2.1 right
        exact Nat.le_trans (Nat.le_trans inFirst.2.1 inFirst.2.2) (Nat.le_trans gap inSecond.1)
      · cases hc.symm.trans hd
        exact ih (laidOut.child first) left right further

/-- In the order of their paths the reached nodes start one behind the other. -/
theorem pairwise_startByte_reached (laidOut : root.IsLaidOut) :
    root.reached.Pairwise fun q r => q.2.range.startByte ≤ r.2.range.startByte := by
  refine (pairwise_reached root).imp_of_mem fun {q r} hq hr before => ?_
  exact laidOut.startByte_le (mem_reached_iff.mp hq).1 (mem_reached_iff.mp hr).1 before

end IsLaidOut

/-! ## The walk -/

/-- Over the children of a node are reached those that its named children reach. -/
theorem map_snd_reachedFrom (i : Nat) (cs : List Node) :
    (reachedFrom i cs).map (·.2) = (cs.filter isNamed).flatMap fun c => c.reached.map (·.2) := by
  induction cs generalizing i with
  | nil => rfl
  | cons c cs ih =>
    rw [reachedFrom, List.map_append, ih, List.filter_cons]
    split
    next => rw [List.flatMap_cons, List.map_map]; rfl
    next => rfl

end Node

/-- **A walk with a stack** visits what is reached from the nodes on it, node by node from
the top. -/
theorem visitNamed_eq_flatMap (stack : List Node) :
    visitNamed stack = stack.flatMap fun n => n.reached.map (·.2) := by
  induction stack using visitNamed.induct with
  | case1 => rw [visitNamed, List.flatMap_nil]
  | case2 node stack ih =>
    rw [visitNamed, ih, List.flatMap_append, List.flatMap_cons, Node.reached_eq, List.map_cons,
      Node.map_snd_reachedFrom, Node.namedChildren, List.cons_append]

/-- A walk from one node visits the nodes that are reached from it. -/
theorem visitNamed_singleton (root : Node) : visitNamed [root] = root.reached.map (·.2) := by
  rw [visitNamed_eq_flatMap, List.flatMap_singleton]

end SyntaxForest
