import SyntaxForest.Proofs.Command.BlockLines
import SyntaxForest.Tree.Outline

/-!
# The lines of an outline

The cursor that writes an outline goes down, to the right and up, and knows its depth only from a
counter. Wherever it arrives the counter is the length of the path to it, so it is not zero when the
cursor climbs. What lies at the cursor, below it and to its right on every level is what the outline
still has to show, and a move takes nothing from it but the node that was shown. So the cursor comes
to each node once, in preorder, and stops, and the lines are those of the recursion over the tree.

## Main definitions

* `TreeCursor.StandsAt`: the path to the place of a cursor
* `TreeCursor.Arrives`: where the moves of an outline lead, with the counter there
* `TreeCursor.Trail`: the places at which lines are written
* `Node.rendering`: the outline as a recursion over the tree

## Main results

* `TreeCursor.Arrives.depth_eq`: the counter is the length of the path
* `TreeCursor.rowsFrom_of_next?_eq_some`: what a move leaves to be shown
* `TreeCursor.outline_renders_tree`: the run over a tree, and its text
-/

namespace SyntaxForest

/-! ## Trees with depths -/

namespace Node

mutual

/-- All nodes of a tree in preorder, each with its depth when the root has this one. -/
def rows (depth : Nat) : Node → List (Nat × Node)
  | mk l cs => (depth, mk l cs) :: rowsAll (depth + 1) cs

/-- All nodes of several trees, tree by tree. -/
def rowsAll (depth : Nat) : List Node → List (Nat × Node)
  | [] => []
  | c :: cs => c.rows depth ++ rowsAll depth cs

end

theorem rows_eq (depth : Nat) (n : Node) :
    n.rows depth = (depth, n) :: rowsAll (depth + 1) n.children := by
  cases n
  rfl

mutual

theorem map_snd_rows (depth : Nat) : ∀ n : Node, (n.rows depth).map (·.2) = n.preorder
  | mk l cs => by rw [rows, preorder, List.map_cons, map_snd_rowsAll (depth + 1) cs]

theorem map_snd_rowsAll (depth : Nat) :
    ∀ cs : List Node, (rowsAll depth cs).map (·.2) = preorderAll cs
  | [] => rfl
  | c :: cs => by
    rw [rowsAll, preorderAll, List.map_append, map_snd_rows depth c, map_snd_rowsAll depth cs]

end

/-- The line of a node at a depth, with its line end: two blanks for each level, the field that the
node fills, if it fills one, and the kind. -/
def line (depth : Nat) (l : Label) : String :=
  let field := match l.field with
    | some name => name ++ ": "
    | none => ""
  String.ofList (List.replicate (2 * depth) ' ') ++ field ++ l.kind ++ "\n"

mutual

/-- The outline of a tree whose root has this depth. A node that is not named has no line, but it
counts for the depth of the nodes below it. -/
def rendering (depth : Nat) : Node → String
  | mk l cs => (if l.isNamed then line depth l else "") ++ renderingAll (depth + 1) cs

/-- The outlines of several trees, tree by tree. -/
def renderingAll (depth : Nat) : List Node → String
  | [] => ""
  | c :: cs => c.rendering depth ++ renderingAll depth cs

end

end Node

namespace Command

theorem textOf_append (a b : List String) : textOf (a ++ b) = textOf a ++ textOf b := by
  apply String.toList_injective
  simp [textOf]

theorem textOf_outlineLine (depth : Nat) (l : Node.Label) :
    textOf (outlineLine depth l) = if l.isNamed then Node.line depth l else "" := by
  rw [outlineLine]
  split
  next =>
    have indent : indentation depth = String.ofList (List.replicate (2 * depth) ' ') :=
      String.toList_injective (by rw [toList_indentation, String.toList_ofList])
    apply String.toList_injective
    rw [← indentation, indent, Node.line]
    cases l.field <;> simp [textOf]
  next => rfl

mutual

/-- The lines of the named nodes make the outline of the tree. -/
theorem textOf_rows (depth : Nat) : ∀ n : Node,
    textOf ((n.rows depth).flatMap fun r => outlineLine r.1 r.2.label) = n.rendering depth
  | .mk l cs => by
    rw [Node.rows, List.flatMap_cons, textOf_append, textOf_outlineLine, textOf_rowsAll,
      Node.rendering,
      Node.label]

theorem textOf_rowsAll (depth : Nat) : ∀ cs : List Node,
    textOf ((Node.rowsAll depth cs).flatMap fun r => outlineLine r.1 r.2.label) =
      Node.renderingAll depth cs
  | [] => rfl
  | c :: cs => by
    rw [Node.rowsAll, List.flatMap_append, textOf_append, textOf_rows, textOf_rowsAll,
      Node.renderingAll]

end

end Command

namespace TreeCursor

variable {root : Node} {c c' up : TreeCursor} {depth : Nat} {p : List Nat}
  {s t : TreeCursor × Nat}

/-! ## The path to a cursor -/

/-- The cursor stands at the end of a path in a tree, with the siblings behind it to its right, and
with the same on every level above. -/
inductive StandsAt (root : Node) : TreeCursor → List Nat → Prop where
  /-- It stands at the root. -/
  | root : StandsAt root (.ofRoot root) []
  /-- It stands at a child. -/
  | child {up : TreeCursor} {p : List Nat} {before later : List Node} {n : Node}
    (above : StandsAt root up p) (children : up.node.children = before ++ n :: later) :
    StandsAt root ⟨n, later, (up.node, up.siblings) :: up.above⟩ (p ++ [before.length])

namespace StandsAt

theorem at?_eq (h : c.StandsAt root p) : root.at? p = some c.node := by
  induction h with
  | root => rfl
  | child _ children ih => simp [Node.at?_append, ih, Node.at?, children]

theorem depth_eq (h : c.StandsAt root p) : c.depth = p.length := by
  induction h with
  | root => rfl
  | child _ _ ih =>
    rw [List.length_append, ← ih]
    rfl

theorem firstChild? (h : c.StandsAt root p) (moved : c.firstChild? = some c') :
    c'.StandsAt root (p ++ [0]) := by
  rw [TreeCursor.firstChild?] at moved
  split at moved
  next => cases moved
  next n later children =>
    cases moved
    have split : c.node.children = [] ++ n :: later := children
    exact .child h split

theorem nextSibling? (h : c.StandsAt root p) (moved : c.nextSibling? = some c') :
    ∃ q i, p = q ++ [i] ∧ c'.StandsAt root (q ++ [i + 1]) := by
  rw [TreeCursor.nextSibling?] at moved
  cases h with
  | root => cases moved
  | @child up q before later n above children =>
    cases later with
    | nil => cases moved
    | cons sibling later =>
      cases moved
      have split : up.node.children = (before ++ [n]) ++ sibling :: later := by simp [children]
      have further := StandsAt.child above split
      rw [List.length_append, List.length_singleton] at further
      exact ⟨q, before.length, rfl, further⟩

theorem parent? (h : c.StandsAt root p) (moved : c.parent? = some up) :
    ∃ q i, p = q ++ [i] ∧ up.StandsAt root q := by
  cases h with
  | root => cases moved
  | child above _ =>
    cases moved
    exact ⟨_, _, rfl, above⟩

end StandsAt

/-! ## The moves of an outline -/

/-- What the cursor of an outline does next. -/
inductive Phase where
  /-- It writes the line of its node, and goes down if it can. -/
  | visits
  /-- It goes to the right if it can, and otherwise up. -/
  | climbs

/-- The cursor of an outline arrives at a place, with the counter there. -/
inductive Arrives (root : Node) : Phase → TreeCursor → Nat → Prop where
  /-- It begins at the root. -/
  | start : Arrives root .visits (.ofRoot root) 0
  /-- It goes down to the first child, and counts the level. -/
  | down {c c' : TreeCursor} {depth : Nat} (here : Arrives root .visits c depth)
    (moved : c.firstChild? = some c') : Arrives root .visits c' (depth + 1)
  /-- There is no child, and it turns to the right. -/
  | turn {c : TreeCursor} {depth : Nat} (here : Arrives root .visits c depth)
    (isLeaf : c.firstChild? = none) : Arrives root .climbs c depth
  /-- It goes to the next sibling. -/
  | right {c c' : TreeCursor} {depth : Nat} (here : Arrives root .climbs c depth)
    (moved : c.nextSibling? = some c') : Arrives root .visits c' depth
  /-- There is no sibling, and it goes up and counts the level back. -/
  | up {c up : TreeCursor} {depth : Nat} (here : Arrives root .climbs c depth)
    (isLast : c.nextSibling? = none) (moved : c.parent? = some up) :
    Arrives root .climbs up (depth - 1)

namespace Arrives

variable {phase : Phase}

/-- **The counter is the length of the path** to the cursor. -/
theorem depth_eq (h : Arrives root phase c depth) : ∃ p, c.StandsAt root p ∧ depth = p.length := by
  induction h with
  | start => exact ⟨[], .root, rfl⟩
  | down _ moved ih =>
    obtain ⟨p, stands, rfl⟩ := ih
    exact ⟨p ++ [0], stands.firstChild? moved, by rw [List.length_append, List.length_singleton]⟩
  | turn _ _ ih => exact ih
  | right _ moved ih =>
    obtain ⟨p, stands, rfl⟩ := ih
    obtain ⟨q, i, rfl, stands'⟩ := stands.nextSibling? moved
    exact ⟨q ++ [i + 1], stands', by simp only [List.length_append, List.length_singleton]⟩
  | up _ _ moved ih =>
    obtain ⟨p, stands, rfl⟩ := ih
    obtain ⟨q, i, rfl, stands'⟩ := stands.parent? moved
    exact ⟨q, stands', by rw [List.length_append, List.length_singleton, Nat.add_sub_cancel]⟩

/-- Where there is a level to climb, the counter is not zero. -/
theorem depth_pos (h : Arrives root phase c depth) (moved : c.parent? = some up) : 0 < depth := by
  obtain ⟨p, stands, rfl⟩ := h.depth_eq
  obtain ⟨q, i, rfl, -⟩ := stands.parent? moved
  rw [List.length_append]
  exact Nat.succ_pos _

theorem climb (h : Arrives root .climbs c depth) (moved : c.climb depth = some t) :
    Arrives root .visits t.1 t.2 := by
  fun_induction TreeCursor.climb c depth with
  | case1 c depth next found =>
    cases moved
    exact h.right found
  | case2 => cases moved
  | case3 c depth isLast up found ih => exact ih (h.up isLast found) moved

/-- From a place where a line is written the cursor goes on to such a place. -/
theorem next? (h : Arrives root .visits c depth) (moved : c.next? depth = some t) :
    Arrives root .visits t.1 t.2 := by
  rw [TreeCursor.next?] at moved
  split at moved
  next child found =>
    cases moved
    exact h.down found
  next isLeaf => exact (h.turn isLeaf).climb moved

end Arrives

/-- The places at which an outline writes lines from a place on, up to the end. -/
inductive Trail : TreeCursor × Nat → List (TreeCursor × Nat) → Prop where
  /-- There is no further place. -/
  | last {s : TreeCursor × Nat} (ends : s.1.next? s.2 = none) : Trail s [s]
  /-- There is a further place. -/
  | next {s t : TreeCursor × Nat} {later : List (TreeCursor × Nat)}
    (moved : s.1.next? s.2 = some t) (rest : Trail t later) : Trail s (s :: later)

theorem Trail.arrives {trail : List (TreeCursor × Nat)} (h : Trail s trail)
    (here : Arrives root .visits s.1 s.2) : ∀ t ∈ trail, Arrives root .visits t.1 t.2 := by
  induction h with
  | last => exact List.forall_mem_singleton.mpr here
  | next moved _ ih => exact List.forall_mem_cons.mpr ⟨here, ih (here.next? moved)⟩

/-! ## What is left to be shown -/

/-- The nodes of the subtrees to the right of nodes, each with its depth. -/
def rowsAbove : List (Node × List Node) → List (Nat × Node)
  | [] => []
  | (_, siblings) :: above => Node.rowsAll above.length siblings ++ rowsAbove above

/-- The nodes at the cursor, below it and to its right on every level, each with its depth. -/
def rowsFrom (c : TreeCursor) : List (Nat × Node) :=
  c.node.rows c.depth ++ (Node.rowsAll c.depth c.siblings ++ rowsAbove c.above)

/-- To the right of a cursor lies what the cursor climbs to, and nothing if it does not climb. -/
theorem rowsAll_siblings_append (c : TreeCursor) :
    Node.rowsAll c.depth c.siblings ++ rowsAbove c.above =
      ((c.climb c.depth).map fun t => t.1.rowsFrom).getD [] ∧
    ∀ t, c.climb c.depth = some t → t.2 = t.1.depth := by
  generalize counted : c.depth = depth
  fun_induction climb c depth with
  | case1 c depth next found =>
    obtain ⟨node, siblings, above⟩ := c
    subst counted
    cases siblings with
    | nil => cases found
    | cons sibling later =>
      cases found
      refine ⟨?_, fun t h => by cases h; rfl⟩
      rw [Node.rowsAll, List.append_assoc]
      rfl
  | case2 c depth isLast isTop =>
    obtain ⟨node, siblings, above⟩ := c
    cases siblings with
    | cons => cases isLast
    | nil =>
      cases above with
      | cons => cases isTop
      | nil => exact ⟨rfl, fun t h => by cases h⟩
  | case3 c depth isLast up found ih =>
    obtain ⟨node, siblings, above⟩ := c
    cases siblings with
    | cons => cases isLast
    | nil =>
      cases above with
      | nil => cases found
      | cons level above =>
        cases found
        subst counted
        exact ih rfl

theorem children_of_firstChild?_eq_none (isLeaf : c.firstChild? = none) : c.node.children = [] := by
  rw [firstChild?] at isLeaf
  split at isLeaf
  next none => exact none
  next => cases isLeaf

/-- **What a move leaves to be shown**: all but the node that was shown. The counter is kept. -/
theorem rowsFrom_of_next?_eq_some (h : c.next? c.depth = some t) :
    c.rowsFrom = (c.depth, c.node) :: t.1.rowsFrom ∧ t.2 = t.1.depth := by
  rw [rowsFrom, Node.rows_eq, List.cons_append]
  rw [next?] at h
  split at h
  next child found =>
    rw [firstChild?] at found
    split at found
    next => cases found
    next n later children =>
      cases found
      cases h
      rw [children, Node.rowsAll]
      exact ⟨congrArg _ (List.append_assoc _ _ _), rfl⟩
  next isLeaf =>
    obtain ⟨right, counted⟩ := c.rowsAll_siblings_append
    rw [right, h, children_of_firstChild?_eq_none isLeaf]
    exact ⟨rfl, counted t h⟩

/-- Where there is no move, only the node at the cursor is left. -/
theorem rowsFrom_of_next?_eq_none (h : c.next? c.depth = none) :
    c.rowsFrom = [(c.depth, c.node)] := by
  rw [rowsFrom, Node.rows_eq]
  rw [next?] at h
  split at h
  next => cases h
  next isLeaf =>
    rw [c.rowsAll_siblings_append.1, h, children_of_firstChild?_eq_none isLeaf]
    rfl

/-- From every place an outline comes to its end. It shows what is left, and writes the lines of the
places on its way. -/
theorem exists_trail (c : TreeCursor) :
    ∃ trail, Trail (c, c.depth) trail ∧ trail.map (fun s => (s.2, s.1.node)) = c.rowsFrom ∧
      outlineFrom c c.depth = c.rowsFrom.flatMap fun r => outlineLine r.1 r.2.label := by
  rw [outlineFrom]
  split
  next ends =>
    have left := rowsFrom_of_next?_eq_none ends
    refine ⟨_, .last ends, left.symm, ?_⟩
    rw [left, List.flatMap_singleton, List.append_nil]
  next t moved =>
    obtain ⟨next, depth⟩ := t
    obtain ⟨left, counted⟩ := rowsFrom_of_next?_eq_some moved
    obtain rfl : depth = next.depth := counted
    obtain ⟨later, rest, shown, lines⟩ := exists_trail next
    refine ⟨_, .next moved rest, ?_, ?_⟩
    · rw [List.map_cons, shown, left]
    · rw [lines, left, List.flatMap_cons]
termination_by c.pending
decreasing_by exact pending_next_lt moved

/-- **An outline renders its tree.** Wherever the cursor arrives, when it is to write a line and
when it is to climb, it stands at the end of a path from the root, and the counter is the length of
that path; so it is not zero when the cursor goes up. The cursor comes to its end: it writes at each
node of the tree once, in preorder. The text is that of the recursion over the tree, with a line for
each node that is named. -/
theorem outline_renders_tree (root : Node) :
    (∀ phase c depth, Arrives root phase c depth →
      ∃ p, c.StandsAt root p ∧ root.at? p = some c.node ∧ c.depth = p.length ∧ depth = p.length) ∧
    (∀ phase c depth up, Arrives root phase c depth → c.parent? = some up → 0 < depth) ∧
    (∃ trail, Trail (.ofRoot root, 0) trail ∧ (∀ s ∈ trail, Arrives root .visits s.1 s.2) ∧
      trail.map (fun s => (s.2, s.1.node)) = root.rows 0 ∧
      trail.map (·.1.node) = root.preorder) ∧
    Command.textOf (outline root) = root.rendering 0 := by
  obtain ⟨trail, run, shown, lines⟩ := exists_trail (.ofRoot root)
  have all : (ofRoot root).rowsFrom = root.rows 0 := List.append_nil _
  rw [all] at shown lines
  refine ⟨fun phase c depth h => ?_, fun phase c depth up h moved => h.depth_pos moved,
    ⟨trail, run, run.arrives .start, shown, ?_⟩, ?_⟩
  · obtain ⟨p, stands, counted⟩ := h.depth_eq
    exact ⟨p, stands, stands.at?_eq, stands.depth_eq, counted⟩
  · rw [← Node.map_snd_rows 0 root, ← shown, List.map_map]
    rfl
  · rw [← Command.textOf_rows, ← lines]
    rfl

end TreeCursor

end SyntaxForest
