import SyntaxForest.Tree.Cursor

/-!
# Outlines

The outline of a tree has one line for each named node, indented by its depth and with the field
that it fills. It is written by a cursor that goes down where it can and otherwise on to the right,
climbing as far as it has to. A counter keeps the depth.

## Main definitions

* `TreeCursor.climb`: on to the right, from the nearest level where that can be done
* `TreeCursor.next?`: the next place in the order of the text
* `outlineFrom`, `outline`: the lines from a cursor on, and of a whole tree
-/

namespace SyntaxForest

namespace TreeCursor

/-- Moves on to the right, from the nearest level that has a sibling there, and counts the levels
left. None when there is no such level. -/
def climb (c : TreeCursor) (depth : Nat) : Option (TreeCursor × Nat) :=
  match c.nextSibling? with
  | some next => some (next, depth)
  | none =>
    match _h : c.parent? with
    | none => none
    | some up => climb up (depth - 1)
termination_by c.above.length
decreasing_by
  obtain ⟨node, siblings, above⟩ := c
  cases above with
  | nil => simp [parent?] at _h
  | cons level above =>
    simp only [parent?, Option.some.injEq] at _h
    subst _h
    simp

theorem pending_climb {c : TreeCursor} {depth : Nat} {next : TreeCursor × Nat}
    (h : c.climb depth = some next) : next.1.pending + c.node.size = c.pending := by
  fun_induction climb c depth with
  | case1 c depth sibling found =>
    obtain ⟨node, siblings, above⟩ := c
    cases siblings with
    | nil => simp [nextSibling?] at found
    | cons s later =>
      simp only [nextSibling?, Option.some.injEq] at found h
      subst h
      subst found
      simp only [pending, Node.sizeAll]
      omega
  | case2 => simp at h
  | case3 c depth none up found ih =>
    obtain ⟨node, siblings, above⟩ := c
    have := ih h
    cases siblings with
    | cons s later => simp [nextSibling?] at none
    | nil =>
      cases above with
      | nil => simp [parent?] at found
      | cons level above =>
        simp only [parent?, Option.some.injEq] at found
        subst found
        simp only [pending, pendingAbove, Node.sizeAll] at this ⊢
        omega

/-- Moves on in the order of the text: to the first child, or else to the right. The depth is
counted along. -/
def next? (c : TreeCursor) (depth : Nat) : Option (TreeCursor × Nat) :=
  match c.firstChild? with
  | some child => some (child, depth + 1)
  | none => c.climb depth

theorem pending_next_lt {c : TreeCursor} {depth : Nat} {next : TreeCursor × Nat}
    (h : c.next? depth = some next) : next.1.pending < c.pending := by
  have size := c.node.size_eq
  unfold next? at h
  split at h
  · next child found =>
    simp only [firstChild?] at found
    split at found
    · simp at found
    · next _ _ children =>
      simp only [Option.some.injEq] at found h
      subst h
      subst found
      rw [children] at size
      simp only [pending, pendingAbove, Node.sizeAll] at size ⊢
      omega
  · have := pending_climb h
    omega

end TreeCursor

/-- The line of a node at a depth: none for a node that is not named. -/
def outlineLine (depth : Nat) (l : Node.Label) : List String :=
  if l.isNamed then
    let indent := String.join (List.replicate depth "  ")
    let field := (l.field.map (· ++ ": ")).getD ""
    [indent ++ field ++ l.kind]
  else []

/-- The lines of the nodes from a cursor on, given its depth. -/
def outlineFrom (c : TreeCursor) (depth : Nat) : List String :=
  outlineLine depth c.node.label ++
    match _h : c.next? depth with
    | none => []
    | some next => outlineFrom next.1 next.2
termination_by c.pending
decreasing_by exact TreeCursor.pending_next_lt _h

/-- The outline of a tree. -/
def outline (root : Node) : List String := outlineFrom (.ofRoot root) 0

end SyntaxForest
