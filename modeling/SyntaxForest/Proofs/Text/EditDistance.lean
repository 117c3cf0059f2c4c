import Mathlib.Data.Nat.Basic
import Mathlib.Order.Basic
import Mathlib.Order.Bounds.Defs
import SyntaxForest.Text.EditDistance

/-!
# The edit distance is the least number of changes

A change of a text takes a character away, puts one in, or puts one in the place of another,
anywhere in the text. The distance of two texts is the least number of changes that lead from one to
the other: there are as many that do, and a single change moves a text by one at most, so fewer
never do.

The distances are first taken by a recursion at the front of the texts. The rows of the table go
through them from the front to the end, so a row holds the distances between texts that are read
backwards; to changes the direction makes no difference.

## Main definitions

* `Change`, `ChangesTo`: a change, and a number of them in a row
* `frontDistance`: the distance by recursion at the front
* `rowBehind`: the distances from a text to the beginnings of another one

## Main results

* `isLeast_frontDistance`: the recursion finds the least number of changes
* `nextRow_rowBehind`: a row of the table holds the distances, if the row before it does
* `isLeast_editDistance`: so does the table
-/

namespace SyntaxForest

variable {a b s t : List Char} {n : Nat}

/-! ## Changes -/

/-- One change: a character goes, another one comes, or one takes the place of another. -/
inductive Change : List Char → List Char → Prop
  | remove (before : List Char) (c : Char) (after : List Char) :
    Change (before ++ c :: after) (before ++ after)
  | add (before : List Char) (c : Char) (after : List Char) :
    Change (before ++ after) (before ++ c :: after)
  | replace (before : List Char) (c d : Char) (after : List Char) :
    Change (before ++ c :: after) (before ++ d :: after)

/-- The second text is reached from the first by this number of changes. -/
inductive ChangesTo : Nat → List Char → List Char → Prop
  | refl (a : List Char) : ChangesTo 0 a a
  | step {n : Nat} {a b c : List Char} (first : ChangesTo n a b) (last : Change b c) :
    ChangesTo (n + 1) a c

theorem Change.cons (h : Change a b) (c : Char) : Change (c :: a) (c :: b) := by
  cases h with
  | remove before d after => exact .remove (c :: before) d after
  | add before d after => exact .add (c :: before) d after
  | replace before d e after => exact .replace (c :: before) d e after

theorem Change.reverse (h : Change a b) : Change a.reverse b.reverse := by
  cases h with
  | remove before c after => simpa using Change.remove after.reverse c before.reverse
  | add before c after => simpa using Change.add after.reverse c before.reverse
  | replace before c d after => simpa using Change.replace after.reverse c d before.reverse

namespace ChangesTo

theorem cons (h : ChangesTo n a b) (c : Char) : ChangesTo n (c :: a) (c :: b) := by
  induction h with
  | refl a => exact .refl (c :: a)
  | step first last ih => exact .step ih (last.cons c)

theorem reverse (h : ChangesTo n a b) : ChangesTo n a.reverse b.reverse := by
  induction h with
  | refl a => exact .refl a.reverse
  | step first last ih => exact .step ih last.reverse

/-- A change in front of others. -/
theorem head (first : Change a b) (h : ChangesTo n b t) : ChangesTo (n + 1) a t := by
  induction h with
  | refl b => exact .step (.refl a) first
  | step between last ih => exact .step (ih first) last

theorem remove_first (h : ChangesTo n a b) (c : Char) : ChangesTo (n + 1) (c :: a) b :=
  head (.remove [] c a) h

theorem add_first (h : ChangesTo n a b) (d : Char) : ChangesTo (n + 1) a (d :: b) :=
  .step h (.add [] d b)

theorem replace_first (h : ChangesTo n a b) (c d : Char) :
    ChangesTo (n + 1) (c :: a) (d :: b) :=
  .step (h.cons c) (.replace [] c d b)

end ChangesTo

/-! ## The distance by recursion -/

/-- The least number of changes, by what happens to the first characters: both are passed, the first
one goes, or the second one comes. -/
def frontDistance : List Char → List Char → Nat
  | [], b => b.length
  | c :: a, [] => (c :: a).length
  | c :: a, d :: b =>
    min (if c = d then frontDistance a b else frontDistance a b + 1)
      (min (frontDistance (c :: a) b + 1) (frontDistance a (d :: b) + 1))
termination_by a b => a.length + b.length

theorem frontDistance_nil_left (b : List Char) : frontDistance [] b = b.length := by
  rw [frontDistance]

theorem frontDistance_nil_right (a : List Char) : frontDistance a [] = a.length := by
  cases a with
  | nil => rw [frontDistance]
  | cons c a => rw [frontDistance]

theorem frontDistance_cons_cons (c d : Char) (a b : List Char) :
    frontDistance (c :: a) (d :: b) =
      min (if c = d then frontDistance a b else frontDistance a b + 1)
        (min (frontDistance (c :: a) b + 1) (frontDistance a (d :: b) + 1)) := by
  rw [frontDistance]

theorem changesTo_length_left (b : List Char) : ChangesTo b.length [] b := by
  induction b with
  | nil => exact .refl []
  | cons d b ih => exact ih.add_first d

theorem changesTo_length_right (a : List Char) : ChangesTo a.length a [] := by
  induction a with
  | nil => exact .refl []
  | cons c a ih => exact ih.remove_first c

/-- **There are as many changes** that lead from one text to the other. -/
theorem changesTo_frontDistance (a b : List Char) : ChangesTo (frontDistance a b) a b := by
  fun_induction frontDistance a b with
  | case1 b => exact changesTo_length_left b
  | case2 c a => exact changesTo_length_right (c :: a)
  | case3 c a d b passed added removed =>
    -- The minimum is one of the three ways to go on.
    refine min_rec' (ChangesTo · _ _) ?_
      (min_rec' (ChangesTo · _ _) (added.add_first d) (removed.remove_first c))
    split
    next same => exact same ▸ passed.cons c
    next => exact passed.replace_first c d

/-! ### One change moves a text by one at most -/

theorem frontDistance_cons_left_le (c : Char) (a b : List Char) :
    frontDistance (c :: a) b ≤ frontDistance a b + 1 := by
  cases b with
  | nil => simp [frontDistance_nil_right]
  | cons d b =>
    rw [frontDistance_cons_cons]
    omega

theorem frontDistance_cons_right_le (a : List Char) (d : Char) (b : List Char) :
    frontDistance a (d :: b) ≤ frontDistance a b + 1 := by
  cases a with
  | nil => simp [frontDistance_nil_left]
  | cons c a =>
    rw [frontDistance_cons_cons]
    omega

theorem frontDistance_le_cons_right (a : List Char) (d : Char) (b : List Char) :
    frontDistance a b ≤ frontDistance a (d :: b) + 1 := by
  induction a with
  | nil =>
    rw [frontDistance_nil_left, frontDistance_nil_left, List.length_cons]
    omega
  | cons c a ih =>
    -- However `c` fares against `d`, without `d` it can be taken away.
    have left := frontDistance_cons_left_le c a b
    rw [frontDistance_cons_cons]
    split_ifs <;> omega

theorem frontDistance_replace_le (a : List Char) (c d : Char) (b : List Char) :
    frontDistance a (d :: b) ≤ frontDistance a (c :: b) + 1 := by
  induction a with
  | nil =>
    rw [frontDistance_nil_left, frontDistance_nil_left]
    exact Nat.le_succ _
  | cons e a ih =>
    rw [frontDistance_cons_cons, frontDistance_cons_cons]
    split_ifs <;> omega

/-- What moves a text by one moves it by one behind a character. -/
theorem frontDistance_cons_congr (near : ∀ a, frontDistance a t ≤ frontDistance a s + 1)
    (d : Char) (a : List Char) : frontDistance a (d :: t) ≤ frontDistance a (d :: s) + 1 := by
  induction a with
  | nil => simpa [frontDistance_nil_left] using near []
  | cons c a ih =>
    -- The two minima are compared one by one: `near` for the ways that pass `d`, `ih` for the
    -- third.
    have behind := near a
    have beside := near (c :: a)
    rw [frontDistance_cons_cons, frontDistance_cons_cons]
    split_ifs <;> omega

theorem frontDistance_append_congr (near : ∀ a, frontDistance a t ≤ frontDistance a s + 1)
    (before a : List Char) :
    frontDistance a (before ++ t) ≤ frontDistance a (before ++ s) + 1 := by
  induction before generalizing a with
  | nil => exact near a
  | cons d before ih => exact frontDistance_cons_congr ih d a

theorem frontDistance_le_of_change (h : Change s t) (a : List Char) :
    frontDistance a t ≤ frontDistance a s + 1 := by
  cases h with
  | remove before c after =>
    exact frontDistance_append_congr (frontDistance_le_cons_right · c after) before a
  | add before c after =>
    exact frontDistance_append_congr (frontDistance_cons_right_le · c after) before a
  | replace before c d after =>
    exact frontDistance_append_congr (frontDistance_replace_le · c d after) before a

theorem frontDistance_self (a : List Char) : frontDistance a a = 0 := by
  induction a with
  | nil => exact frontDistance_nil_left []
  | cons c a ih => rw [frontDistance_cons_cons, if_pos rfl, ih, Nat.zero_min]

/-- **Fewer changes never do.** -/
theorem frontDistance_le_of_changesTo (h : ChangesTo n a b) : frontDistance a b ≤ n := by
  induction h with
  | refl a => exact (frontDistance_self a).le
  | step first last ih => exact (frontDistance_le_of_change last _).trans (Nat.succ_le_succ ih)

theorem isLeast_frontDistance (a b : List Char) :
    IsLeast {n | ChangesTo n a b} (frontDistance a b) :=
  ⟨changesTo_frontDistance a b, fun _ => frontDistance_le_of_changesTo⟩

/-! ## The rows of the table -/

/-- The distances from a text to `q` with more and more of another text in front of it. -/
def rowBehind (p q : List Char) : List Char → List Nat
  | [] => []
  | d :: text => frontDistance p (d :: q) :: rowBehind p (d :: q) text

/-- The distances from no text are lengths. -/
theorem rowBehind_nil (q text : List Char) :
    rowBehind [] q text = List.range' (q.length + 1) text.length := by
  induction text generalizing q with
  | nil => rfl
  | cons d text ih =>
    rw [rowBehind, frontDistance_nil_left, ih, List.length_cons, List.length_cons, List.range'_succ]

theorem firstRow_eq (text : List Char) :
    firstRow text = frontDistance [] [] :: rowBehind [] [] text := by
  rw [firstRow, rowBehind_nil, frontDistance_nil_left, List.range_eq_range', List.range'_succ]
  rfl

theorem restOfRow_rowBehind (c : Char) (p q text : List Char) :
    restOfRow c (frontDistance p q) (frontDistance (c :: p) q) text (rowBehind p q text) =
      rowBehind (c :: p) q text := by
  induction text generalizing q with
  | nil => rfl
  | cons d text ih =>
    simp only [rowBehind, restOfRow]
    rw [← frontDistance_cons_cons, ih]

/-- **One more character** takes a row of distances to the next one. -/
theorem nextRow_rowBehind (c : Char) (p text : List Char) :
    nextRow c text (frontDistance p [] :: rowBehind p [] text) =
      frontDistance (c :: p) [] :: rowBehind (c :: p) [] text := by
  have left : frontDistance p [] + 1 = frontDistance (c :: p) [] := by
    rw [frontDistance_nil_right, frontDistance_nil_right, List.length_cons]
  rw [nextRow, left, restOfRow_rowBehind]

theorem foldl_nextRow (a p text : List Char) :
    a.foldl (fun row c => nextRow c text row) (frontDistance p [] :: rowBehind p [] text) =
      frontDistance (a.reverse ++ p) [] :: rowBehind (a.reverse ++ p) [] text := by
  -- What was read last stands in front, so the part read so far stands backwards in front of `p`.
  induction a generalizing p with
  | nil => rfl
  | cons c a ih => rw [List.foldl_cons, nextRow_rowBehind, ih, List.reverse_cons, List.append_cons]

theorem getLastD_rowBehind (p q text : List Char) (default : Nat) :
    (frontDistance p q :: rowBehind p q text).getLastD default =
      frontDistance p (text.reverse ++ q) := by
  induction text generalizing q default with
  | nil => rfl
  | cons d text ih =>
    rw [rowBehind, List.getLastD_cons, ih, List.reverse_cons, List.append_cons]

/-- The table reads the texts backwards. -/
theorem editDistance_eq (a b : List Char) :
    editDistance a b = frontDistance a.reverse b.reverse := by
  rw [editDistance, firstRow_eq, foldl_nextRow, getLastD_rowBehind, List.append_nil,
    List.append_nil]

/-- **The edit distance is the least number of changes** that lead from one text to the other. -/
theorem isLeast_editDistance (a b : List Char) :
    IsLeast {n | ChangesTo n a b} (editDistance a b) := by
  obtain ⟨reached, least⟩ := isLeast_frontDistance a.reverse b.reverse
  rw [editDistance_eq]
  have forward := ChangesTo.reverse reached
  rw [List.reverse_reverse, List.reverse_reverse] at forward
  exact ⟨forward, fun n changes => least changes.reverse⟩

end SyntaxForest
