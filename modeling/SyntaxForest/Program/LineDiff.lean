/-!
# Differences between texts

The difference between two sequences of lines as a sequence of changes. The shortest way from one to
the other is found from both ends at once and split where the two searches meet. Then changes are
moved together: the lines removed in one place become one change, and added lines slide up over
equal lines as far as they can, joining other added lines on their way, and down again.

## Main definitions

* `Change`: lines kept, removed or added
* `meeting?`: where the searches from both ends meet
* `changes`: the changes as they are found
* `gather`, `settle`: removed lines together, and added lines in their place
* `diff`: the changes of two sequences, line by line
-/

namespace SyntaxForest.LineDiff

variable {α : Type} [DecidableEq α]

/-- A change between two sequences of lines. -/
inductive Change (α : Type) where
  /-- A line of both. -/
  | kept (line : α)
  /-- Lines of the first only. -/
  | removed (lines : List α)
  /-- Lines of the second only. -/
  | added (lines : List α)
  deriving Repr

/-- The number of lines that two sequences begin with alike. -/
def commonLength : List α → List α → Nat
  | a :: as, b :: bs => if a = b then commonLength as bs + 1 else 0
  | _, _ => 0

/-! ### The search from both ends -/

/-- How far a search has come on each diagonal: the greatest number of lines of the first sequence
passed. Diagonals count from `-width`. -/
structure Frontier where
  /-- The number of diagonals on either side. -/
  width : Nat
  /-- The lines passed on each of them. -/
  reach : Array Nat

namespace Frontier

/-- The frontier of a search that has not begun. -/
def start (width : Nat) : Frontier := ⟨width, Array.replicate (2 * width + 1) 0⟩

/-- The lines passed on a diagonal. -/
def get (f : Frontier) (k : Int) : Nat := f.reach.getD (k + f.width).toNat 0

/-- Records the lines passed on a diagonal. -/
def set (f : Frontier) (k : Int) (x : Nat) : Frontier :=
  { f with reach := f.reach.setIfInBounds (k + f.width).toNat x }

/-- The step to diagonal `k` in round `d`: the lines passed before the run of equal lines there, and
behind it. -/
def advance (f : Frontier) (old new : List α) (d : Nat) (k : Int) : Nat × Nat :=
  let x :=
    if k = -d ∨ (k ≠ d ∧ f.get (k - 1) < f.get (k + 1)) then f.get (k + 1) else f.get (k - 1) + 1
  (x, x + commonLength (old.drop x) (new.drop (x - k).toNat))

end Frontier

/-- The diagonals of a round, from the highest down. -/
def diagonals (d : Nat) : List Int := (List.range (d + 1)).map fun (i : Nat) => (d : Int) - 2 * i

/-- One round of a search over some diagonals. It ends early where it meets the search from the
other end, whose frontier is `other`: `isNear` says on which diagonals that can be, and the result
is the diagonal with the lines passed there before and behind the run of equal lines. -/
def searchRound (old new : List α) (other : Frontier) (delta : Int) (isNear : Int → Bool)
    (d : Nat) :
    List Int → Frontier → Frontier × Option (Int × Nat × Nat)
  | [], f => (f, none)
  | k :: rest, f =>
    let (before, behind) := f.advance old new d k
    let f := f.set k behind
    if isNear k && old.length ≤ behind + other.get (delta - k) then (f, some (k, before, behind))
    else searchRound old new other delta isNear d rest f

/-- The rounds of both searches from round `d` on, at most `fuel` of them. The result is the lines
of either sequence before the meeting point. -/
def searchFrom (old new : List α) (fuel d : Nat) (front back : Frontier) : Option (Nat × Nat) :=
  match fuel with
  | 0 => none
  | fuel + 1 =>
    let delta : Int := (old.length : Int) - new.length
    let isOdd := delta % 2 ≠ 0
    let nearFront (k : Int) : Bool := isOdd && (k - delta).natAbs < d
    let nearBack (k : Int) : Bool := !isOdd && (k - delta).natAbs ≤ d
    match searchRound old new back delta nearFront d (diagonals d) front with
    | (_, some (k, before, _)) => some (before, (before - k).toNat)
    | (front, none) =>
      match searchRound old.reverse new.reverse front delta nearBack d (diagonals d) back with
      | (_, some (k, _, behind)) => some (old.length - behind, new.length - (behind - k).toNat)
      | (back, none) => searchFrom old new fuel (d + 1) front back

/-- Where the searches from both ends meet: the lines of either sequence before that point. -/
def meeting? (old new : List α) : Option (Nat × Nat) :=
  let rounds := (old.length + new.length + 1) / 2 + 1
  searchFrom old new rounds 0 (.start (rounds + 1)) (.start (rounds + 1))

/-- The changes between two sequences: what they begin and end with alike is kept, and the rest is
split at the meeting point. -/
def changes (old new : List α) : List (Change α) :=
  let start := commonLength old new
  let old' := old.drop start
  let new' := new.drop start
  let stop := commonLength old'.reverse new'.reverse
  let older := old'.take (old'.length - stop)
  let newer := new'.take (new'.length - stop)
  let between :=
    if older = [] then if newer = [] then [] else [.added newer]
    else if newer = [] then [.removed older]
    else
      match meeting? older newer with
      | none => [.removed older, .added newer]
      | some (x, y) =>
        if 0 < x + y ∧ x + y < older.length + newer.length then
          changes (older.take x) (newer.take y) ++ changes (older.drop x) (newer.drop y)
        else [.removed older, .added newer]
  (old.take start).map .kept ++ between ++ (old'.drop (old'.length - stop)).map .kept
termination_by old.length + new.length
decreasing_by
  all_goals
    have h1 : 0 < older.length := by grind
    have h2 : 0 < newer.length := by grind
    have h3 : older.length ≤ old.length := by grind
    have h4 : newer.length ≤ new.length := by grind
    grind

/-! ### Moving changes together -/

/-- Closes a run of changes without kept lines: the removed lines become one change behind the added
ones. -/
def closeRun (removed : List α) (rest : List (Change α)) : List (Change α) :=
  if removed = [] then rest else .removed removed :: rest

/-- Joins the removed lines of each run of changes without kept lines. -/
def gather (removed : List α) : List (Change α) → List (Change α)
  | [] => closeRun removed []
  | .kept line :: rest => closeRun removed (.kept line :: gather [] rest)
  | .removed lines :: rest => gather (removed ++ lines) rest
  | .added lines :: rest => .added lines :: gather removed rest

/-- Slides added lines up: over kept lines that the added ones end with, past removed lines, and
into other added lines. The changes before them have the nearest first. -/
def slideUp (lines : List α) (behind : List (Change α)) :
    List (Change α) → List (Change α) × List α × List (Change α)
  | [] => ([], lines, behind)
  | .kept line :: before =>
    if lines.getLast? = some line then
      slideUp (line :: lines.dropLast) (.kept line :: behind) before
    else (.kept line :: before, lines, behind)
  | .removed gone :: before => slideUp lines (.removed gone :: behind) before
  | .added more :: before => slideUp (more ++ lines) behind before

/-- Slides added lines down: over kept lines that the added ones begin with, past removed lines, and
into other added lines. -/
def slideDown (before : List (Change α)) (lines : List α) :
    List (Change α) → List (Change α) × List α × List (Change α)
  | [] => (before, lines, [])
  | .kept line :: behind =>
    if lines.head? = some line then slideDown (.kept line :: before) (lines.tail ++ [line]) behind
    else (before, lines, .kept line :: behind)
  | .removed gone :: behind => slideDown (.removed gone :: before) lines behind
  | .added more :: behind => slideDown before (lines ++ more) behind

/-- Whether a change adds lines. -/
def Change.isAdded : Change α → Bool
  | .added _ => true
  | _ => false

/-- Brings the next `count` changes that add lines to their places. -/
def settle (count : Nat) (before behind : List (Change α)) : List (Change α) :=
  let before := (behind.takeWhile (!·.isAdded)).reverse ++ before
  match count, behind.dropWhile (!·.isAdded) with
  | count + 1, .added lines :: behind =>
    let (before, lines, behind) := slideUp lines behind before
    let (before, lines, behind) := slideDown before lines behind
    settle count (.added lines :: before) behind
  | _, rest => before.reverse ++ rest

/-! ### The lines of a difference -/

/-- A line of a difference. -/
inductive Line (α : Type) where
  /-- A line of both sequences. -/
  | same (line : α)
  /-- A line of the first only. -/
  | minus (line : α)
  /-- A line of the second only. -/
  | plus (line : α)
  deriving Repr

/-- The lines of changes. Between two kept lines the removed lines come before the added ones, which
wait in `added`. -/
def toLines (added : List α) : List (Change α) → List (Line α)
  | [] => added.map .plus
  | .kept line :: rest => added.map .plus ++ .same line :: toLines [] rest
  | .removed lines :: rest => lines.map .minus ++ toLines added rest
  | .added lines :: rest => toLines (added ++ lines) rest

/-- The difference between two sequences of lines. -/
def diff (old new : List α) : List (Line α) :=
  let found := gather [] (changes old new)
  toLines [] (settle (found.filter (·.isAdded)).length [] found)

end SyntaxForest.LineDiff
