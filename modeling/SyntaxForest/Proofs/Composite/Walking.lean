import SyntaxForest.Proofs.Command.BlockLines
import SyntaxForest.Proofs.Composite.Composition

/-!
# What a walk of a composite visits

A walk keeps a stack of nodes, and so goes over the tree that is left of the primary tree when only
named children are followed. Beside each node it shows the root of the last region that is anchored
there. A region is hidden when a later one is anchored at its node, or when there is an anonymous
node above it.

## Main definitions

* `CompositeTree.IsLastAt`: the last region at a node

## Main results

* `CompositeTree.walk_eq`: the walk, node by node
* `CompositeTree.exists_secondary_eq_iff`, `CompositeTree.isShown_iff`: which regions are shown
* `CompositeTree.walk_visits_reached_nodes`: what is visited, what is shown and what is printed
-/

namespace SyntaxForest.CompositeTree

open Command

/-- The region at the position is this one, it is anchored at the node, and none behind it is. -/
def IsLastAt (c : CompositeTree) (n : Node) (i : Nat) (t : SecondaryTree) : Prop :=
  c.secondaries[i]? = some t ∧ t.region.anchor = n.id ∧
    ∀ j u, i < j → c.secondaries[j]? = some u → u.region.anchor ≠ n.id

variable {c : CompositeTree} {n : Node} {item : CompositeNode}

/-- A walk visits the nodes that are reached over named children from the root. -/
theorem walk_eq (c : CompositeTree) :
    c.walk = c.root.reached.map fun q => ⟨q.2, c.secondaryRoot? q.2⟩ := by
  rw [walk, visitNamed_singleton, List.map_map]
  rfl

theorem map_node_walk (c : CompositeTree) : c.walk.map (·.node) = c.root.reached.map (·.2) := by
  rw [walk_eq, List.map_map]
  rfl

theorem mem_walk_iff :
    item ∈ c.walk ↔ ∃ p n, c.root.at? p = some n ∧ c.root.NamedBelow [] p ∧
      item = ⟨n, c.secondaryRoot? n⟩ := by
  rw [walk_eq, List.mem_map, Prod.exists]
  refine exists_congr fun p => exists_congr fun n => ?_
  rw [Node.mem_reached_iff, and_assoc, @eq_comm _ item]

/-! ## Regions -/

/-- The root shown at a node is that of the last region there. -/
theorem secondaryRoot?_eq_some_iff {r : Node} :
    c.secondaryRoot? n = some r ↔ ∃ i t, c.IsLastAt n i t ∧ t.root = r := by
  have last (t : SecondaryTree) : c.secondaryTree? n = some t ↔ ∃ i, c.IsLastAt n i t := by
    rw [secondaryTree?_eq_find?, find?_reverse_eq_some_iff]
    simp only [IsLastAt, decide_eq_true_eq, decide_eq_false_iff_not, ne_eq]
  rw [secondaryRoot?, Option.map_eq_some_iff]
  constructor
  · rintro ⟨t, found, same⟩
    obtain ⟨i, isLast⟩ := (last t).mp found
    exact ⟨i, t, isLast, same⟩
  · rintro ⟨i, t, isLast, same⟩
    exact ⟨t, (last t).mpr ⟨i, isLast⟩, same⟩

/-- No root is shown at a node where no region is anchored. -/
theorem secondaryRoot?_eq_none_iff :
    c.secondaryRoot? n = none ↔ ∀ t ∈ c.secondaries, t.region.anchor ≠ n.id := by
  rw [secondaryRoot?, Option.map_eq_none_iff, secondaryTree?_eq_find?, List.find?_eq_none]
  simp only [List.mem_reverse, decide_eq_true_eq, ne_eq]

/-- **Which roots are shown**: those of the regions that are the last at a node which the walk
visits. -/
theorem exists_secondary_eq_iff {r : Node} :
    (∃ item ∈ c.walk, item.secondary = some r) ↔
      ∃ i t p n, t.root = r ∧ c.root.at? p = some n ∧ c.root.NamedBelow [] p ∧
        c.IsLastAt n i t := by
  constructor
  · rintro ⟨item, visited, shown⟩
    obtain ⟨p, n, reaches, named, rfl⟩ := mem_walk_iff.mp visited
    obtain ⟨i, t, isLast, same⟩ := secondaryRoot?_eq_some_iff.mp shown
    exact ⟨i, t, p, n, same, reaches, named, isLast⟩
  · rintro ⟨i, t, p, n, same, reaches, named, isLast⟩
    exact ⟨_, mem_walk_iff.mpr ⟨p, n, reaches, named, rfl⟩,
      secondaryRoot?_eq_some_iff.mpr ⟨i, t, isLast, same⟩⟩

/-- A region whose root is no other one's is shown when it is the last at a visited node, and only
then. -/
theorem isShown_iff {i : Nat} {t : SecondaryTree}
    (alone : ∀ j u, c.secondaries[j]? = some u → u.root = t.root → j = i)
    (place : c.secondaries[i]? = some t) :
    (∃ item ∈ c.walk, item.secondary = some t.root) ↔
      ∃ p n, c.root.at? p = some n ∧ c.root.NamedBelow [] p ∧ c.IsLastAt n i t := by
  rw [exists_secondary_eq_iff]
  constructor
  · rintro ⟨j, u, p, n, same, reaches, named, isLast⟩
    obtain rfl := alone j u isLast.1 same
    cases isLast.1.symm.trans place
    exact ⟨p, n, reaches, named, isLast⟩
  · rintro ⟨p, n, reaches, named, isLast⟩
    exact ⟨i, t, p, n, rfl, reaches, named, isLast⟩

/-! ## The order of the text, and the lines -/

/-- In a tree that is laid out in the order of its text, no node starts ahead of one
visited before. -/
theorem pairwise_startByte_walk (laidOut : c.root.IsLaidOut) :
    c.walk.Pairwise fun a b => a.node.range.startByte ≤ b.node.range.startByte := by
  rw [walk_eq]
  exact List.pairwise_map.mpr laidOut.pairwise_startByte_reached

/-- The line of a node other than the root is indented one level more than that of its parent, which
stands above it. -/
theorem exists_parent_line (distinct : c.root.HasDistinctIds) {k : Nat} {p : List Nat}
    (place : c.root.reached[k]? = some (p, n)) (behind : 0 < k) :
    ∃ j < k, ∃ q m i, c.root.reached[j]? = some (q, m) ∧ p = q ++ [i] ∧
      m.children[i]? = some n ∧
      (markdownLines c)[j]? = some (indentation q.length ++ blockText c m) ∧
      (markdownLines c)[k]? = some (indentation (q.length + 1) ++ blockText c n) := by
  obtain ⟨j, before, q, m, i, above, rfl, child, -⟩ :=
    Node.exists_parent_of_getElem?_reached place behind
  refine ⟨j, before, q, m, i, above, rfl, child, ?_, ?_⟩
  · rw [markdownLines_eq distinct, List.getElem?_map, above, Option.map_some]
  · rw [markdownLines_eq distinct, List.getElem?_map, place, Option.map_some, List.length_append,
      List.length_singleton]

/-- The reached nodes are of visible kinds when those that the walk visits are. -/
theorem isVisible_of_mem_reached (visible : ∀ item ∈ c.walk, IsVisible item.node.kind) :
    ∀ q ∈ c.root.reached, IsVisible q.2.kind := by
  intro q hq
  refine visible ⟨q.2, c.secondaryRoot? q.2⟩ ?_
  rw [walk_eq]
  exact List.mem_map_of_mem hq

/-- **What a walk of a composite visits, shows and prints.** It visits the nodes that are reached
from the root over named children, in the order of their paths and each once: the root, and every
other node that is named and has none but named nodes above it, the root apart. Beside a node stands
the root of the last region that is anchored there, and none where no region is, so the roots shown
are those of the regions that are the last at a visited node; a region whose root is no other one's
is shown exactly when it is such a one. In a tree that is laid out in the order of its text, whose
nodes hold their children and whose siblings are in order and do not overlap, the visited nodes
start one behind the other. Where no two nodes have one identity, each line is indented by the
number of nodes above its node, so one level more than that of the parent, which stands above it.
When moreover no kind begins with a blank, the lines determine the tree that the walk follows, with
the texts of its nodes. -/
theorem walk_visits_reached_nodes (c : CompositeTree) :
    c.walk.map (·.node) = c.root.reached.map (·.2) ∧
    c.root.reached.Pairwise (fun q r => q.1 < r.1) ∧
    (∀ p n, (p, n) ∈ c.root.reached ↔ c.root.at? p = some n ∧ c.root.NamedBelow [] p) ∧
    (∀ item ∈ c.walk,
      (∀ r, item.secondary = some r ↔ ∃ i t, c.IsLastAt item.node i t ∧ t.root = r) ∧
      (item.secondary = none ↔ ∀ t ∈ c.secondaries, t.region.anchor ≠ item.node.id)) ∧
    (∀ r, (∃ item ∈ c.walk, item.secondary = some r) ↔
      ∃ i t p n, t.root = r ∧ c.root.at? p = some n ∧ c.root.NamedBelow [] p ∧
        c.IsLastAt n i t) ∧
    (∀ i t, c.secondaries[i]? = some t →
      (∀ j u, c.secondaries[j]? = some u → u.root = t.root → j = i) →
      ((∃ item ∈ c.walk, item.secondary = some t.root) ↔
        ∃ p n, c.root.at? p = some n ∧ c.root.NamedBelow [] p ∧ c.IsLastAt n i t)) ∧
    (c.root.IsLaidOut →
      c.walk.Pairwise fun a b => a.node.range.startByte ≤ b.node.range.startByte) ∧
    (c.root.HasDistinctIds →
      markdownLines c =
          (c.root.reached.map fun q => indentation q.1.length ++ blockText c q.2) ∧
        (∀ k p n, c.root.reached[k]? = some (p, n) → 0 < k →
          ∃ j < k, ∃ q m i, c.root.reached[j]? = some (q, m) ∧ p = q ++ [i] ∧
            m.children[i]? = some n ∧
            (markdownLines c)[j]? = some (indentation q.length ++ blockText c m) ∧
            (markdownLines c)[k]? = some (indentation (q.length + 1) ++ blockText c n)) ∧
        ∀ d : CompositeTree, d.root.HasDistinctIds →
          (∀ item ∈ c.walk, IsVisible item.node.kind) →
          (∀ item ∈ d.walk, IsVisible item.node.kind) →
          markdownLines c = markdownLines d → printed c = printed d) := by
  refine ⟨c.map_node_walk, Node.pairwise_reached _, fun p n => Node.mem_reached_iff,
    fun item visited => ?_, fun r => exists_secondary_eq_iff,
    fun i t place alone => isShown_iff alone place, pairwise_startByte_walk,
    fun distinct => ⟨markdownLines_eq distinct,
      fun k p n place behind => exists_parent_line distinct place behind,
      fun d distinct' visible visible' same => ?_⟩⟩
  · obtain ⟨p, n, -, -, rfl⟩ := mem_walk_iff.mp visited
    exact ⟨fun r => secondaryRoot?_eq_some_iff, secondaryRoot?_eq_none_iff⟩
  · exact printed_eq_of_markdownLines_eq distinct distinct' (isVisible_of_mem_reached visible)
      (isVisible_of_mem_reached visible') same

/-- A document with an anonymous node, below which the walk does not go, where one of the nodes
visited is the anchor of two regions. -/
theorem walk_visits_reached_nodes_of_repeated_anchor :
    ∃ c d : CompositeTree, ∃ hidden earlier last : SecondaryTree,
      c.secondaries = [earlier, hidden, last] ∧ d.secondaries = [last] ∧
      c.walk.map (·.node.id) = [0, 1, 2, 5] ∧
      (¬ ∃ item ∈ c.walk, item.secondary = some hidden.root) ∧
      (¬ ∃ item ∈ c.walk, item.secondary = some earlier.root) ∧
      (∃ item ∈ c.walk, item.secondary = some last.root) ∧
      (c.walk.Pairwise fun a b => a.node.range.startByte ≤ b.node.range.startByte) ∧
      markdownLines c = markdownLines d ∧ printed c = printed d := by
  let inline := Composer.inlineNode 2 2 6 []
  let inner := Composer.inlineNode 4 6 8 []
  let comma : Node := .mk ⟨3, ",", false, false, false, ⟨6, 8, ⟨0, 6⟩, ⟨0, 8⟩⟩, none⟩ [inner]
  let document := Composer.inlineNode 0 0 20
    [Composer.inlineNode 1 0 6 [inline], comma, Composer.inlineNode 5 8 20 []]
  let earlier := Composer.secondaryOf none 0 inline ⟨Composer.inlineNode 0 2 4 [], "(a)", false⟩
  let hidden := Composer.secondaryOf none 1 inner ⟨Composer.inlineNode 0 6 8 [], "(b)", false⟩
  let last := Composer.secondaryOf none 2 inline ⟨Composer.inlineNode 0 2 6 [], "(c)", false⟩
  let c : CompositeTree := .of ⟨document, "", false⟩ [earlier, hidden, last]
  let d : CompositeTree := .of ⟨document, "", false⟩ [last]
  obtain ⟨nodes, -, reached, -, -, regions, laidOut, lines⟩ := walk_visits_reached_nodes c
  obtain ⟨text, -, determine⟩ := lines (by decide)
  have ids : c.walk.map (·.node.id) = [0, 1, 2, 5] := by
    have same := congrArg (List.map Node.id) nodes
    rwa [List.map_map] at same
  -- The three roots span different texts.
  have apart : (c.secondaries.map (·.root.range)).Nodup := by decide
  have alone (i : Nat) (t : SecondaryTree) (place : c.secondaries[i]? = some t) :
      ∀ j u, c.secondaries[j]? = some u → u.root = t.root → j = i := by
    intro j u other same
    have inside := (List.getElem?_eq_some_iff.mp other).1
    refine (List.getElem?_inj (by rwa [List.length_map]) apart).mp ?_
    rw [List.getElem?_map, List.getElem?_map, place, other, Option.map_some, Option.map_some, same]
  have visible (e : CompositeTree) (same : e.root = document) :
      ∀ item ∈ e.walk, IsVisible item.node.kind := by
    intro item visited
    have kinds : e.walk.map (·.node.kind) = List.replicate 4 "inline" := by
      have kinds := congrArg (List.map Node.kind) e.map_node_walk
      rwa [same, List.map_map] at kinds
    have kind : item.node.kind ∈ List.replicate 4 "inline" :=
      kinds ▸ List.mem_map.mpr ⟨item, visited, rfl⟩
    rw [List.eq_of_mem_replicate kind]
    exact ⟨'i', _, rfl, by decide⟩
  have same : markdownLines c = markdownLines d := by
    rw [text, markdownLines_eq (c := d) (by decide)]
    rfl
  refine ⟨c, d, hidden, earlier, last, rfl, rfl, ids, ?_, ?_, ?_, laidOut (by decide), ?_, ?_⟩
  · rw [regions 1 hidden rfl (alone 1 hidden rfl)]
    rintro ⟨p, n, reaches, named, -, anchor, -⟩
    have visited : n.id ∈ c.root.reached.map (·.2.id) :=
      List.mem_map.mpr ⟨(p, n), (reached p n).mpr ⟨reaches, named⟩, rfl⟩
    rw [← anchor] at visited
    exact absurd visited (by decide)
  · rw [regions 0 earlier rfl (alone 0 earlier rfl)]
    rintro ⟨p, n, -, -, -, anchor, later⟩
    exact later 2 last (by decide) rfl anchor
  · rw [regions 2 last rfl (alone 2 last rfl)]
    obtain ⟨reaches, named⟩ := (reached [0, 0] inline).mp (List.mem_of_getElem? (i := 2) rfl)
    refine ⟨[0, 0], inline, reaches, named, rfl, rfl, fun j u behind place => ?_⟩
    have inside : j < 3 := (List.getElem?_eq_some_iff.mp place).1
    omega
  · exact same
  · exact determine d (by decide) (visible c rfl) (visible d rfl) same

end SyntaxForest.CompositeTree
