/-!
# Edit distance

The least number of insertions, deletions and replacements of a character that turn one text into
another, found row by row: a row holds the distances from a part of the first text to every part of
the second.

## Main definitions

* `firstRow`, `nextRow`: the rows
* `editDistance`: the distance
-/

namespace SyntaxForest

/-- The distances from no text to each beginning of the second one. -/
def firstRow (text : List Char) : List Nat := List.range (text.length + 1)

/-- The rest of a row after the distance `left`. The row before it goes on after `diagonal`. -/
def restOfRow (c : Char) (diagonal left : Nat) : List Char → List Nat → List Nat
  | b :: text, above :: row =>
    let kept := if c = b then diagonal else diagonal + 1
    let here := min kept (min (left + 1) (above + 1))
    here :: restOfRow c above here text row
  | _, _ => []

/-- The row after one more character of the first text. -/
def nextRow (c : Char) (text : List Char) : List Nat → List Nat
  | [] => []
  | d :: row => (d + 1) :: restOfRow c d (d + 1) text row

/-- The least number of changes of a character that turn one text into another. The suggestion of a
name that is close to an unknown one is defined by this distance. -/
def editDistance (a b : List Char) : Nat :=
  (a.foldl (fun row c => nextRow c b row) (firstRow b)).getLastD 0

end SyntaxForest
