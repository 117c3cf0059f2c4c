/-!
# Reading texts

What the readers of several notations share: the numbers that digits spell, in every base up to
sixteen, and how a reading goes on. A reader returns what it leaves of a text. That the rest of a
reading goes on from a part of the text is plain when the part is taken from the text itself.

## Main definitions

* `Numeral.digit?`, `Numeral.value`: the value of a digit, and the number that digits spell
* `resume`: what a part of a text at its end leaves of the text
-/

namespace SyntaxForest

/-- What `later`, a part of `rest` at its end, leaves of `rest`. -/
def resume {α : Type} (rest later : List α) : List α := rest.drop (rest.length - later.length)

theorem length_resume_le {α : Type} (rest later : List α) :
    (resume rest later).length ≤ rest.length := by
  simp [resume]

namespace Numeral

/-- The value of a hexadecimal digit. The digits of the smaller bases are among these. -/
def digit? (c : Char) : Option Nat :=
  if c.isDigit then some (c.toNat - '0'.toNat)
  else if 'a' ≤ c ∧ c ≤ 'f' then some (c.toNat - 'a'.toNat + 10)
  else if 'A' ≤ c ∧ c ≤ 'F' then some (c.toNat - 'A'.toNat + 10)
  else none

/-- A hexadecimal digit. -/
def isHexDigit (c : Char) : Bool := (digit? c).isSome

/-- The number that digits spell in a base, where a character that is no digit counts as zero. -/
def value (base : Nat) (digits : List Char) : Nat :=
  digits.foldl (fun n c => n * base + (digit? c).getD 0) 0

end Numeral

end SyntaxForest
