import SyntaxForest.Text.Reading

/-!
# Sets of code points

A set of code points as an ascending list of ranges, with the operations of set algebra, and the
notation of the Unicode character database for such sets: ranges of hexadecimal numbers.

## Main definitions

* `ScalarSet`, `ScalarSet.contains`: sets and membership
* `ScalarSet.ofRanges`: the union of ranges, in any order
* `ScalarSet.union`, `ScalarSet.inter`, `ScalarSet.diff`, `ScalarSet.complement`: set algebra
* `Property`: a named set of the character database
-/

namespace SyntaxForest.Unicode

/-- A set of numbers as ranges with both ends included, ascending and apart. -/
structure ScalarSet where
  /-- The ranges. -/
  ranges : List (Nat × Nat)
  deriving DecidableEq, Repr, Inhabited

namespace ScalarSet

/-- The set of no number. -/
def empty : ScalarSet := ⟨[]⟩

/-- The numbers from `low` to `high`. -/
def range (low high : Nat) : ScalarSet := ⟨if low ≤ high then [(low, high)] else []⟩

/-- Membership. -/
def contains (s : ScalarSet) (n : Nat) : Bool := s.ranges.any fun (a, b) => a ≤ n && n ≤ b

/-- Joins the range from `a` to `b` and ranges sorted by their first number where they overlap or
touch. -/
def joinSorted (a b : Nat) : List (Nat × Nat) → List (Nat × Nat)
  | [] => [(a, b)]
  | (c, d) :: rest =>
    if c ≤ b + 1 then joinSorted a (max b d) rest else (a, b) :: joinSorted c d rest

/-- The union of ranges in any order. -/
def ofRanges (ranges : List (Nat × Nat)) : ScalarSet :=
  match (ranges.filter fun (a, b) => a ≤ b).mergeSort fun r s => r.1 ≤ s.1 with
  | [] => empty
  | (a, b) :: rest => ⟨joinSorted a b rest⟩

/-- The numbers of either set. -/
def union (s t : ScalarSet) : ScalarSet := ofRanges (s.ranges ++ t.ranges)

/-- The numbers from `low` to `high` that lie in none of the ranges. -/
def holes (low high : Nat) : List (Nat × Nat) → List (Nat × Nat)
  | [] => if low ≤ high then [(low, high)] else []
  | (a, b) :: rest =>
    if low < a then (low, a - 1) :: holes (b + 1) high rest else holes (b + 1) high rest

/-- The numbers up to `top` that are not in the set. -/
def complement (s : ScalarSet) (top : Nat) : ScalarSet := ⟨holes 0 top s.ranges⟩

/-- The numbers up to `top` in both sets. -/
def inter (s t : ScalarSet) (top : Nat) : ScalarSet :=
  ((s.complement top).union (t.complement top)).complement top

/-- The numbers up to `top` in the first set and not in the second. -/
def diff (s t : ScalarSet) (top : Nat) : ScalarSet :=
  ((s.complement top).union t).complement top

/-- The numbers up to `top` in just one of the sets. -/
def symmDiff (s t : ScalarSet) (top : Nat) : ScalarSet := (s.diff t top).union (t.diff s top)

end ScalarSet

/-- The parts of a text between spaces and line ends. -/
def words (text : List Char) : List (List Char) :=
  (text.splitOnP fun c => c = ' ' || c = '\n').filter (· ≠ [])

/-- A set of code points under its names. -/
structure Property where
  /-- The names, in the loose form in which names are compared. -/
  names : List String
  /-- The ranges, in hexadecimal, apart by spaces. -/
  text : String
  deriving Inhabited

/-- The code points of a property. -/
def Property.set (p : Property) : ScalarSet :=
  ⟨(words p.text.toList).map fun r =>
    match (r.splitOn '-').map (Numeral.value 16) with
    | [low, high] => (low, high)
    | parts => (parts.headD 0, parts.headD 0)⟩

/-- The property with this name in a family of properties. -/
def find? (family : List Property) (name : String) : Option Property :=
  family.find? fun p => p.names.contains name

end SyntaxForest.Unicode
