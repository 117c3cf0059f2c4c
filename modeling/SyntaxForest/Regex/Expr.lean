import SyntaxForest.Text.Ascii
import SyntaxForest.Unicode.Folding
import SyntaxForest.Unicode.Properties

/-!
# Regular expressions and where they match

An expression maps the offsets where a match may begin to the offsets where it may end. A search
asks whether this leads anywhere from the set of all offsets, so no search strategy has to be chosen
and repetition is a closure of sets.

## Main definitions

* `Look`, `Expr`: assertions and expressions
* `Haystack`: a text prepared for the search
* `Expr.advance`: the ends of the matches that begin at given offsets
* `Expr.matchesIn`: whether an expression matches somewhere in a text
* `Expr.cost`: the room that an expression takes as an automaton
-/

namespace SyntaxForest.Regex

open Unicode (ScalarSet)

/-- Assertions about an offset. -/
inductive Look where
  /-- The start of the text. -/
  | textStart
  /-- The end of the text. -/
  | textEnd
  /-- The start of a line; lines end with a line feed. -/
  | lineStart
  /-- The end of a line; lines end with a line feed. -/
  | lineEnd
  /-- The start of a line; lines end with a line feed, a carriage return or both. -/
  | crlfStart
  /-- The end of a line; lines end with a line feed, a carriage return or both. -/
  | crlfEnd
  /-- A word and something else meet; `ascii` takes words of ASCII characters. -/
  | wordBoundary (ascii : Bool)
  /-- No word and something else meet. -/
  | notWordBoundary (ascii : Bool)
  /-- A word starts. -/
  | wordStart (ascii : Bool)
  /-- A word ends. -/
  | wordEnd (ascii : Bool)
  /-- No word lies before. -/
  | wordStartHalf (ascii : Bool)
  /-- No word lies behind. -/
  | wordEndHalf (ascii : Bool)
  deriving DecidableEq, Repr

/-- Regular expressions over bytes. -/
inductive Expr where
  /-- The empty text. -/
  | empty
  /-- One character of the set, in UTF-8. -/
  | scalar (set : ScalarSet)
  /-- One byte of the set. -/
  | byte (set : ScalarSet)
  /-- The empty text, where the assertion holds. -/
  | look (assertion : Look)
  /-- One expression after the other. -/
  | seq (first second : Expr)
  /-- Either expression. -/
  | alt (left right : Expr)
  /-- The expression at least `least` times and at most `most` times. -/
  | rep (body : Expr) (least : Nat) (most : Option Nat)
  deriving Repr

/-- A text prepared for a search: its bytes and the character at each offset. -/
structure Haystack where
  /-- The bytes. -/
  bytes : Array UInt8
  /-- The character that begins at each offset, with its width. -/
  scalars : Array (Option (Nat × Nat))

namespace Haystack

/-- The characters that begin at the offsets of a text. -/
def scalarsOf : Bytes → List (Option (Nat × Nat))
  | [] => []
  | b :: rest => Utf8.scalarAt? (b :: rest) :: scalarsOf rest

/-- Prepares a text. -/
def ofBytes (text : Bytes) : Haystack := ⟨text.toArray, (scalarsOf text).toArray⟩

/-- The character that begins at an offset, with its width. -/
def scalarAt? (h : Haystack) (i : Nat) : Option (Nat × Nat) := (h.scalars[i]?).getD none

/-- The offset, at most three before `i`, of the nearest byte up to `i` that is no continuation
byte. -/
def backToStart (h : Haystack) : Nat → Nat → Nat
  | 0, i => i
  | _, 0 => 0
  | n + 1, i + 1 =>
    match h.bytes[i + 1]? with
    | some b => if 0x80 ≤ b && b < 0xC0 then h.backToStart n i else i + 1
    | none => i + 1

/-- The character before an offset: the one that begins at the nearest start of a character. -/
def scalarBefore? (h : Haystack) (i : Nat) : Option Nat :=
  match i with
  | 0 => none
  | i + 1 => (h.scalarAt? (h.backToStart 3 i)).map (·.1)

/-- A byte of an ASCII word. -/
def isWordByte (b : UInt8) : Bool := Ascii.isLetter b || Ascii.isDigit b || b = 95

/-- Whether the character is part of a word. -/
def isWordScalar (words : ScalarSet) (n : Nat) : Bool :=
  if n < 0x80 then isWordByte n.toUInt8 else words.contains n

/-- Whether part of a word lies before an offset. -/
def wordBefore (h : Haystack) (words : ScalarSet) (ascii : Bool) (i : Nat) : Bool :=
  if ascii then 0 < i && (h.bytes[i - 1]?).any isWordByte
  else (h.scalarBefore? i).any (isWordScalar words)

/-- Whether part of a word lies behind an offset. -/
def wordAfter (h : Haystack) (words : ScalarSet) (ascii : Bool) (i : Nat) : Bool :=
  if ascii then (h.bytes[i]?).any isWordByte
  else (h.scalarAt? i).any fun (n, _) => isWordScalar words n

/-- Whether the bytes before an offset are characters, as far as the words of all scripts need
it. -/
def readableBefore (h : Haystack) (ascii : Bool) (i : Nat) : Bool :=
  ascii || i = 0 || (h.scalarBefore? i).isSome

/-- Whether the bytes behind an offset are characters, as far as the words of all scripts need
it. -/
def readableAfter (h : Haystack) (ascii : Bool) (i : Nat) : Bool :=
  ascii || h.bytes.size ≤ i || (h.scalarAt? i).isSome

/-- Whether an assertion holds at an offset. -/
def holds (h : Haystack) (words : ScalarSet) (i : Nat) : Look → Bool
  | .textStart => i = 0
  | .textEnd => i = h.bytes.size
  | .lineStart => i = 0 || h.bytes[i - 1]? = some 10
  | .lineEnd => i = h.bytes.size || h.bytes[i]? = some 10
  | .crlfStart =>
    i = 0 || h.bytes[i - 1]? = some 10 || (h.bytes[i - 1]? = some 13 && h.bytes[i]? ≠ some 10)
  | .crlfEnd =>
    i = h.bytes.size || h.bytes[i]? = some 13 ||
      (h.bytes[i]? = some 10 && (i = 0 || h.bytes[i - 1]? ≠ some 13))
  | .wordBoundary ascii => h.wordBefore words ascii i != h.wordAfter words ascii i
  | .notWordBoundary ascii =>
    h.readableBefore ascii i && h.readableAfter ascii i &&
      h.wordBefore words ascii i == h.wordAfter words ascii i
  | .wordStart ascii => !h.wordBefore words ascii i && h.wordAfter words ascii i
  | .wordEnd ascii => h.wordBefore words ascii i && !h.wordAfter words ascii i
  | .wordStartHalf ascii => h.readableBefore ascii i && !h.wordBefore words ascii i
  | .wordEndHalf ascii => h.readableAfter ascii i && !h.wordAfter words ascii i

end Haystack

/-- Merges two ascending lists of offsets. -/
def mergeOffsets : List Nat → List Nat → List Nat
  | [], js => js
  | is, [] => is
  | i :: is, j :: js =>
    if i < j then i :: mergeOffsets is (j :: js)
    else if j < i then j :: mergeOffsets (i :: is) js
    else i :: mergeOffsets is js
termination_by is js => is.length + js.length

/-- Applies a step `n` times, or until it changes nothing. -/
def iterate (step : List Nat → List Nat) : Nat → List Nat → List Nat
  | 0, offsets => offsets
  | n + 1, offsets =>
    let next := step offsets
    if next = offsets then offsets else iterate step n next

/-- The offsets reached by at most `n` steps. -/
def withinSteps (step : List Nat → List Nat) : Nat → List Nat → List Nat
  | 0, offsets => offsets
  | n + 1, offsets =>
    let next := mergeOffsets offsets (step offsets)
    if next = offsets then offsets else withinSteps step n next

/-- Marks every offset that steps from the frontier reach. Each round brings a new offset, so as
many rounds as there are offsets suffice. -/
def reach (step : List Nat → List Nat) : Nat → Array Bool → List Nat → Array Bool
  | 0, seen, _ => seen
  | n + 1, seen, frontier =>
    match (step frontier).filter fun i => !(seen[i]?).getD true with
    | [] => seen
    | new => reach step n (new.foldl (fun seen i => seen.setIfInBounds i true) seen) new

/-- The offsets reached by any number of steps in a text of `n` bytes. -/
def afterSteps (step : List Nat → List Nat) (n : Nat) (offsets : List Nat) : List Nat :=
  let start := offsets.foldl (fun seen i => seen.setIfInBounds i true)
    (Array.replicate (n + 1) false)
  let seen := reach step (n + 1) start offsets
  (List.range (n + 1)).filter fun i => (seen[i]?).getD false

/-- The ends of the matches of an expression that begin at given offsets. -/
def Expr.advance (h : Haystack) (words : ScalarSet) : Expr → List Nat → List Nat
  | .empty => id
  | .byte set => List.filterMap fun i =>
    match h.bytes[i]? with
    | some b => if set.contains b.toNat then some (i + 1) else none
    | none => none
  | .scalar set => List.filterMap fun i =>
    match h.scalarAt? i with
    | some (n, width) => if set.contains n then some (i + width) else none
    | none => none
  | .look assertion => List.filter fun i => h.holds words i assertion
  | .seq a b => fun offsets => b.advance h words (a.advance h words offsets)
  | .alt a b => fun offsets => mergeOffsets (a.advance h words offsets) (b.advance h words offsets)
  | .rep body least most => fun offsets =>
    let first := iterate (body.advance h words) least offsets
    match most with
    | none => afterSteps (body.advance h words) h.bytes.size first
    | some most => withinSteps (body.advance h words) (most - least) first

/-- Whether an assertion of the expression asks for the words of all scripts. -/
def Expr.asksWords : Expr → Bool
  | .look (.wordBoundary false) | .look (.notWordBoundary false) | .look (.wordStart false)
  | .look (.wordEnd false) | .look (.wordStartHalf false) | .look (.wordEndHalf false) => true
  | .seq a b | .alt a b => a.asksWords || b.asksWords
  | .rep body _ _ => body.asksWords
  | _ => false

/-- Whether the expression matches some part of the text. -/
def Expr.matchesIn (e : Expr) (text : Bytes) : Bool :=
  let h := Haystack.ofBytes text
  let words := if e.asksWords then Unicode.wordSet else .empty
  !(e.advance h words (List.range (h.bytes.size + 1))).isEmpty

/-- The number of bytes of a character. -/
def widthOf (n : Nat) : Nat :=
  if n < 0x80 then 1 else if n < 0x800 then 2 else if n < 0x10000 then 3 else 4

/-- The room for one state of an automaton. -/
def stateRoom : Nat := 32

/-- The room for a step on one character of a set: one state on ASCII alone, and otherwise about
one for each byte of each range. -/
def setRoom (set : ScalarSet) : Nat :=
  match set.ranges with
  | [] => stateRoom
  | [(a, b)] => if a = b then stateRoom * widthOf a else stateRoom * (widthOf b + 1)
  | ranges =>
    if ranges.all fun (_, b) => b < 0x80 then 2 * stateRoom + 8 * ranges.length
    else
      ranges.foldl (fun room (a, b) => room + stateRoom * widthOf b + (if a = b then 8 else 16)) 0

/-- Whether the expression matches the empty text only. -/
def Expr.isEmptyOnly : Expr → Bool
  | .empty | .look _ => true
  | .scalar _ | .byte _ => false
  | .seq a b | .alt a b => a.isEmptyOnly && b.isEmptyOnly
  | .rep body _ most => body.isEmptyOnly || most = some 0

/-- The room that the expression takes as an automaton. -/
def Expr.cost : Expr → Nat
  | .empty => stateRoom
  | .look _ => stateRoom
  | .scalar set => setRoom set
  | .byte set => stateRoom + 8 * set.ranges.length
  | .seq a b => a.cost + b.cost
  | .alt a b => a.cost + b.cost + stateRoom
  | .rep body least most =>
    let (least, most) :=
      if body.isEmptyOnly then (min least 1, some (min (most.getD 1) 1)) else (least, most)
    match most with
    | none => max least 1 * body.cost + 2 * stateRoom
    | some most => most * body.cost + (most - least) * (stateRoom + 16) + stateRoom

end SyntaxForest.Regex
