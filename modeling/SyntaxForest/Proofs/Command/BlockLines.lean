import SyntaxForest.Command.Trees
import SyntaxForest.Proofs.Tree.Reached

/-!
# The lines of a document

Each node that a walk visits gets a line, indented by the number of nodes above it. Where no two
nodes of a tree have one identity, that number is the length of the path to the node. The texts
behind the indentations and the indentations themselves are those of a tree in preorder, and they
determine it.

## Main definitions

* `Node.HasDistinctIds`: a tree whose nodes are told apart by their identities
* `Command.blockText`: the line of a node without its indentation
* `Command.TextTree`, `Command.printed`: the tree of the texts of the visited nodes
* `Command.rowOf`: the indentation of a line in levels, and the text behind it

## Main results

* `Command.depthOf?_of_at?`: the depth of a node is the length of its path
* `Command.markdownLines_eq`: the lines of a document
* `Command.TextTree.eq_of_rows_eq`: depths and texts in preorder determine a tree
* `Command.printed_eq_of_markdownLines_eq`: the lines of a document determine the visited tree
-/

namespace SyntaxForest

namespace Node

/-- No two nodes of the tree have one identity. -/
def HasDistinctIds (root : Node) : Prop := (root.preorder.map id).Nodup

instance (root : Node) : Decidable root.HasDistinctIds :=
  inferInstanceAs (Decidable (List.Nodup _))

theorem preorder_sublist_preorderAll {c : Node} {cs : List Node} (hc : c ∈ cs) :
    c.preorder.Sublist (preorderAll cs) := by
  induction cs with
  | nil => cases hc
  | cons d cs ih =>
    rw [preorderAll]
    rcases List.mem_cons.mp hc with rfl | hc
    · exact List.sublist_append_left _ _
    · exact (ih hc).trans (List.sublist_append_right _ _)

end Node

namespace Command

/-! ## Depths -/

section Depths

variable {id : Nat} {n c root : Node} {cs : List Node} {i d : Nat} {p : List Nat}

mutual

/-- An identity that does not occur in the tree is not found in it. -/
theorem depthOf?_eq_none : ∀ {n : Node}, id ∉ n.preorder.map Node.id → depthOf? id n = none
  | .mk l cs, h => by
    rw [Node.preorder, List.map_cons, List.mem_cons, not_or] at h
    have other : l.id ≠ id := fun same => h.1 same.symm
    rw [depthOf?, if_neg other, depthOfAll?_eq_none h.2, Option.map_none]

theorem depthOfAll?_eq_none :
    ∀ {cs : List Node}, id ∉ (Node.preorderAll cs).map Node.id → depthOfAll? id cs = none
  | [], _ => rfl
  | c :: cs, h => by
    rw [Node.preorderAll, List.map_append, List.mem_append, not_or] at h
    rw [depthOfAll?, depthOf?_eq_none h.1, depthOfAll?_eq_none h.2, Option.or_none]

end

/-- What is found in one of several trees with distinct identities is found in them all. -/
theorem depthOfAll?_of_getElem? (distinct : ((Node.preorderAll cs).map Node.id).Nodup)
    (hc : cs[i]? = some c) (found : depthOf? id c = some d) : depthOfAll? id cs = some d := by
  induction cs generalizing i with
  | nil => cases hc
  | cons c' cs ih =>
    rw [Node.preorderAll, List.map_append] at distinct
    obtain ⟨-, later, apart⟩ := List.nodup_append.mp distinct
    rw [depthOfAll?]
    cases i with
    | zero =>
      cases hc
      rw [found, Option.some_or]
    | succ i =>
      have found' := ih later hc
      -- The identity stands in a later tree, so not in this one.
      have elsewhere : depthOf? id c' = none := by
        refine depthOf?_eq_none fun here => ?_
        by_cases there : id ∈ (Node.preorderAll cs).map Node.id
        · exact apart id here id there rfl
        · rw [depthOfAll?_eq_none there] at found'
          cases found'
      rw [elsewhere, Option.none_or, found']

/-- **The depth of a node** is the length of the path to it. -/
theorem depthOf?_of_at? (distinct : root.HasDistinctIds) (h : root.at? p = some n) :
    depthOf? n.id root = some p.length := by
  induction p generalizing root with
  | nil =>
    cases h
    cases n
    exact if_pos rfl
  | cons i p ih =>
    obtain ⟨l, cs⟩ := root
    obtain ⟨c, hc, below⟩ := Node.exists_child_of_at?_cons h
    obtain ⟨apart, others⟩ := List.nodup_cons.mp distinct
    have within := Node.preorder_sublist_preorderAll (List.mem_of_getElem? hc)
    have lower : l.id ≠ n.id := fun same => apart <| List.mem_map.mpr
      ⟨n, within.subset (Node.mem_preorder_of_at? below), same.symm⟩
    have found := ih (others.sublist (within.map Node.id)) below
    rw [depthOf?, if_neg lower, depthOfAll?_of_getElem? others hc found]
    rfl

end Depths

/-! ## Lines -/

/-- The blanks that stand before the text of a line at a depth. -/
def indentation (depth : Nat) : String := String.join (List.replicate depth "  ")

/-- The line of a node without its indentation: its kind, where it starts, and the tree of the
region that is shown at it, if there is one. -/
def blockText (c : CompositeTree) (n : Node) : String :=
  let start := n.range.startPoint
  let text := s!"{n.kind} [{start.row + 1}:{start.column + 1}]"
  match (c.secondaryTree? n).map (·.tree.sexp) with
  | some sexp => text ++ " " ++ sexp
  | none => text

theorem markdownLine_eq (c : CompositeTree) (n : Node) (secondary : Option Node) :
    markdownLine c.root (fun node => (c.secondaryTree? node).map (·.tree.sexp)) ⟨n, secondary⟩ =
      indentation ((depthOf? n.id c.root).getD 0) ++ blockText c n := by
  unfold markdownLine blockText
  dsimp only
  cases c.secondaryTree? n with
  | none => simp only [Option.map_none, String.append_assoc]; rfl
  | some t => simp only [Option.map_some, String.append_assoc]; rfl

/-- **The lines of a document**, one for each visited node: the text of the node behind two blanks
for each node above it. -/
theorem markdownLines_eq {c : CompositeTree} (distinct : c.root.HasDistinctIds) :
    markdownLines c = c.root.reached.map fun q => indentation q.1.length ++ blockText c q.2 := by
  rw [markdownLines, CompositeTree.walk, visitNamed_singleton, List.map_map, List.map_map]
  refine List.map_congr_left fun q hq => ?_
  have place := (Node.mem_reached_iff.mp (show (q.1, q.2) ∈ _ from hq)).1
  rw [Function.comp_apply, Function.comp_apply, markdownLine_eq, depthOf?_of_at? distinct place,
    Option.getD_some]

/-- The text begins with a character other than a blank. -/
def IsVisible (text : String) : Prop := ∃ first rest, text.toList = first :: rest ∧ first ≠ ' '

theorem IsVisible.append {text : String} (visible : IsVisible text) (later : String) :
    IsVisible (text ++ later) := by
  obtain ⟨first, rest, same, ne⟩ := visible
  exact ⟨first, rest ++ later.toList, by rw [String.toList_append, same, List.cons_append], ne⟩

theorem isVisible_blockText {c : CompositeTree} {n : Node} (visible : IsVisible n.kind) :
    IsVisible (blockText c n) := by
  unfold blockText
  cases c.secondaryTree? n with
  | none =>
    simp only [Option.map_none, String.append_assoc]
    exact visible.append _
  | some t =>
    simp only [Option.map_some, String.append_assoc]
    exact visible.append _

theorem toList_indentation (depth : Nat) :
    (indentation depth).toList = List.replicate (2 * depth) ' ' := by
  rw [indentation, String.toList_join]
  induction depth with
  | zero => rfl
  | succ depth ih =>
    rw [List.replicate_succ, List.flatMap_cons, ih]
    rfl

/-- The levels by which a line is indented, and the text behind its blanks. -/
def rowOf (line : String) : Nat × String :=
  ((line.toList.takeWhile (· = ' ')).length / 2, String.ofList (line.toList.dropWhile (· = ' ')))

/-- An indented text shows how far it is indented. -/
theorem rowOf_indentation_append {text : String} (visible : IsVisible text) (depth : Nat) :
    rowOf (indentation depth ++ text) = (depth, text) := by
  obtain ⟨first, rest, same, ne⟩ := visible
  have blanks : ∀ b ∈ List.replicate (2 * depth) ' ', decide (b = ' ') = true := by
    intro b hb
    exact decide_eq_true (List.eq_of_mem_replicate hb)
  rw [rowOf, String.toList_append, toList_indentation, List.takeWhile_append_of_pos blanks,
    List.dropWhile_append_of_pos blanks, same, List.takeWhile_cons_of_neg (by simpa using ne),
    List.dropWhile_cons_of_neg (by simpa using ne), List.append_nil, List.length_replicate,
    Nat.mul_div_cancel_left _ (by omega), ← same, String.ofList_toList]

/-! ## Trees of texts -/

/-- A tree of texts. -/
inductive TextTree where
  | mk (text : String) (children : List TextTree)

namespace TextTree

mutual

/-- The texts of a tree in preorder, each with its depth when the root has this one. -/
def rows (depth : Nat) : TextTree → List (Nat × String)
  | mk text cs => (depth, text) :: rowsOf (depth + 1) cs

/-- The texts of trees side by side, tree by tree. -/
def rowsOf (depth : Nat) : List TextTree → List (Nat × String)
  | [] => []
  | t :: ts => t.rows depth ++ rowsOf depth ts

end

/-- Behind trees side by side, a list that goes on with a smaller depth begins with no
greater one. -/
theorem head?_rowsOf_append {depth : Nat} {trees : List TextTree} {rest : List (Nat × String)}
    (ends : ∀ row ∈ rest.head?, row.1 < depth) :
    ∀ row ∈ (rowsOf depth trees ++ rest).head?, row.1 < depth + 1 := by
  intro row first
  match trees with
  | [] => exact Nat.lt_succ_of_lt (ends row first)
  | .mk text cs :: ts =>
    cases first
    exact Nat.lt_succ_self depth

/-- The depths and the texts of trees side by side determine the trees, and where they end in a list
that goes on with a smaller depth. -/
theorem rowsOf_append_inj {depth : Nat} {trees others : List TextTree}
    {rest rest' : List (Nat × String)}
    (same : rowsOf depth trees ++ rest = rowsOf depth others ++ rest')
    (ends : ∀ row ∈ rest.head?, row.1 < depth) (ends' : ∀ row ∈ rest'.head?, row.1 < depth) :
    trees = others ∧ rest = rest' := by
  match trees, others with
  | [], [] => exact ⟨rfl, same⟩
  | [], .mk text cs :: us =>
    obtain rfl : rest = _ := same
    exact absurd (ends _ rfl) (Nat.lt_irrefl _)
  | .mk text cs :: ts, [] =>
    obtain rfl : _ = rest' := same
    exact absurd (ends' _ rfl) (Nat.lt_irrefl _)
  | .mk text cs :: ts, .mk text' cs' :: us =>
    simp only [rowsOf, rows, List.cons_append, List.append_assoc, List.cons.injEq, Prod.mk.injEq]
      at same
    obtain ⟨⟨-, sameText⟩, same⟩ := same
    -- The children stand one level further in, so they end where the next tree begins.
    obtain ⟨below, behind⟩ := rowsOf_append_inj same (head?_rowsOf_append ends)
      (head?_rowsOf_append ends')
    obtain ⟨beside, after⟩ := rowsOf_append_inj behind ends ends'
    rw [sameText, below, beside]
    exact ⟨rfl, after⟩
termination_by sizeOf trees

/-- **A tree is determined by its rows**, the depths and the texts in preorder. -/
theorem eq_of_rows_eq {depth : Nat} {t u : TextTree} (same : t.rows depth = u.rows depth) :
    t = u := by
  have alone (t : TextTree) : rowsOf depth [t] ++ [] = t.rows depth := by
    rw [rowsOf, rowsOf, List.append_nil, List.append_nil]
  rw [← alone t, ← alone u] at same
  exact List.singleton_inj.mp (rowsOf_append_inj same nofun nofun).1

end TextTree

section Printed

variable (textOf : Node → String)

mutual

/-- The tree of the texts of a node and of the nodes that are reached from it. -/
def textTree : Node → TextTree
  | .mk l cs => .mk (textOf (.mk l cs)) (textTrees cs)

/-- The trees of the texts of those nodes that are named. -/
def textTrees : List Node → List TextTree
  | [] => []
  | c :: cs => if c.isNamed then textTree c :: textTrees cs else textTrees cs

end

mutual

/-- The rows of the texts are those of the reached nodes, each as deep as its path is long. -/
theorem rows_textTree (depth : Nat) : ∀ n : Node,
    (textTree textOf n).rows depth = n.reached.map fun q => (depth + q.1.length, textOf q.2)
  | .mk l cs => by
    rw [textTree, TextTree.rows, Node.reached, List.map_cons, rowsOf_textTrees depth 0 cs]
    rfl

theorem rowsOf_textTrees (depth i : Nat) : ∀ cs : List Node,
    TextTree.rowsOf (depth + 1) (textTrees textOf cs) =
      (Node.reachedFrom i cs).map fun q => (depth + q.1.length, textOf q.2)
  | [] => rfl
  | c :: cs => by
    rw [textTrees, Node.reachedFrom, List.map_append, ← rowsOf_textTrees depth (i + 1) cs]
    split
    next =>
      rw [TextTree.rowsOf, rows_textTree (depth + 1) c, List.map_map]
      congr 1
      refine List.map_congr_left fun q _ => ?_
      rw [Function.comp_apply, List.length_cons, Nat.add_assoc, Nat.add_comm 1]
    next => rfl

end

end Printed

/-- The tree that a walk of a composite follows, with the texts that are printed at its nodes. -/
def printed (c : CompositeTree) : TextTree := textTree (blockText c) c.root

/-- The lines of a document show the rows of its tree. -/
theorem map_rowOf_markdownLines {c : CompositeTree} (distinct : c.root.HasDistinctIds)
    (visible : ∀ q ∈ c.root.reached, IsVisible q.2.kind) :
    (markdownLines c).map rowOf = (printed c).rows 0 := by
  rw [markdownLines_eq distinct, List.map_map, printed, rows_textTree]
  refine List.map_congr_left fun q hq => ?_
  rw [Function.comp_apply, rowOf_indentation_append (isVisible_blockText (visible q hq)),
    Nat.zero_add]

/-- **The lines of a document determine the tree that its walk follows.** -/
theorem printed_eq_of_markdownLines_eq {c d : CompositeTree} (distinct : c.root.HasDistinctIds)
    (distinct' : d.root.HasDistinctIds) (visible : ∀ q ∈ c.root.reached, IsVisible q.2.kind)
    (visible' : ∀ q ∈ d.root.reached, IsVisible q.2.kind)
    (same : markdownLines c = markdownLines d) : printed c = printed d := by
  have rows := congrArg (List.map rowOf) same
  rw [map_rowOf_markdownLines distinct visible, map_rowOf_markdownLines distinct' visible'] at rows
  exact TextTree.eq_of_rows_eq rows

end Command

end SyntaxForest
