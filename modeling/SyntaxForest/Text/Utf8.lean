/-!
# UTF-8

Text is held as bytes, and offsets count bytes. A small machine reads UTF-8 one byte at a time: it
refuses a byte exactly where no character can go on with it. Valid text, characters at an offset and
the tolerant reading of arbitrary bytes are all said through this machine.

## Main definitions

* `Utf8.step`, `Utf8.run`: the machine, on one byte and on a text
* `Utf8.Valid`: the texts on which the machine ends between two characters
* `Utf8.scalarAt?`: the character at the front of a text, with its width
* `Bytes.toText`: the tolerant reading, one replacement character for each maximal ill-formed part
-/

namespace SyntaxForest

/-- Text as a sequence of bytes. -/
abbrev Bytes := List UInt8

namespace Utf8

/-- Where the machine stands between two bytes. -/
inductive State where
  /-- Between characters. -/
  | start
  /-- One continuation byte is owed. -/
  | tail1
  /-- Two are owed. -/
  | tail2
  /-- Three are owed. -/
  | tail3
  /-- After `E0`: two are owed, the first at least `A0`, as shorter forms are refused. -/
  | afterE0
  /-- After `ED`: two are owed, the first at most `9F`, as surrogates are refused. -/
  | afterED
  /-- After `F0`: three are owed, the first at least `90`. -/
  | afterF0
  /-- After `F4`: three are owed, the first at most `8F`, as the last character is `10FFFF`. -/
  | afterF4
  deriving DecidableEq, Repr

/-- The state after the first byte of a character. -/
def first (b : UInt8) : Option State :=
  if b ≤ 0x7F then some .start
  else if b < 0xC2 then none
  else if b ≤ 0xDF then some .tail1
  else if b = 0xE0 then some .afterE0
  else if b = 0xED then some .afterED
  else if b ≤ 0xEF then some .tail2
  else if b = 0xF0 then some .afterF0
  else if b ≤ 0xF3 then some .tail3
  else if b = 0xF4 then some .afterF4
  else none

/-- `next` when the byte lies between the bounds, a refusal otherwise. -/
def within (low high b : UInt8) (next : State) : Option State :=
  if low ≤ b ∧ b ≤ high then some next else none

/-- The state after one more byte, or none where no character goes on with it. -/
def step : State → UInt8 → Option State
  | .start, b => first b
  | .tail1, b => within 0x80 0xBF b .start
  | .tail2, b => within 0x80 0xBF b .tail1
  | .tail3, b => within 0x80 0xBF b .tail2
  | .afterE0, b => within 0xA0 0xBF b .tail1
  | .afterED, b => within 0x80 0x9F b .tail1
  | .afterF0, b => within 0x90 0xBF b .tail2
  | .afterF4, b => within 0x80 0x8F b .tail2

/-- The state after a whole text, or none when a byte is refused. -/
def run : State → Bytes → Option State
  | q, [] => some q
  | q, b :: rest => (step q b).bind (run · rest)

/-- The text is UTF-8: the machine ends between characters. -/
def Valid (text : Bytes) : Prop := run .start text = some .start

instance (text : Bytes) : Decidable (Valid text) := inferInstanceAs (Decidable (_ = _))

/-- The bits that the first byte of a character contributes. -/
def firstBits (b : UInt8) : Nat :=
  if b ≤ 0x7F then b.toNat
  else if b ≤ 0xDF then b.toNat % 0x20
  else if b ≤ 0xEF then b.toNat % 0x10
  else b.toNat % 0x08

/-- The bits of a character so far, after one more of its bytes. -/
def addBits (q : State) (bits : Nat) (b : UInt8) : Nat :=
  match q with
  | .start => firstBits b
  | _ => bits * 0x40 + b.toNat % 0x40

/-- The character whose first bytes have brought the machine to `q` with these bits: its code
point and the number of bytes read to its end. -/
def scalarFrom (q : State) (bits width : Nat) : Bytes → Option (Nat × Nat)
  | [] => none
  | b :: rest =>
    match step q b with
    | none => none
    | some .start => some (addBits q bits b, width + 1)
    | some q' => scalarFrom q' (addBits q bits b) (width + 1) rest

/-- The character at the front of a text: its code point and its width in bytes. None at the end
of the text and where the front is not UTF-8. -/
def scalarAt? (text : Bytes) : Option (Nat × Nat) := scalarFrom .start 0 0 text

/-- The replacement character. -/
def replacement : Char := '\uFFFD'

/-- Reads on from the machine's state. An ill-formed part ends before the byte that the machine
refuses, or at that byte when it stands alone, and becomes one replacement character. -/
def decodeFrom (q : State) (bits : Nat) : Bytes → List Char
  | [] => if q = .start then [] else [replacement]
  | b :: rest =>
    match step q b with
    | some .start => Char.ofNat (addBits q bits b) :: decodeFrom .start 0 rest
    | some q' => decodeFrom q' (addBits q bits b) rest
    | none =>
      if q = .start then replacement :: decodeFrom .start 0 rest
      else
        match first b with
        | some .start => replacement :: Char.ofNat b.toNat :: decodeFrom .start 0 rest
        | some q' => replacement :: decodeFrom q' (firstBits b) rest
        | none => replacement :: replacement :: decodeFrom .start 0 rest

/-- The characters of a text, read tolerantly. -/
def decode (text : Bytes) : List Char := decodeFrom .start 0 text

/-- An offset falls between two characters: its byte, if any, is no continuation byte. -/
def isBoundary (text : Bytes) (offset : Nat) : Bool :=
  match text[offset]? with
  | some b => b < 0x80 || 0xC0 ≤ b
  | none => offset = text.length

end Utf8

namespace Bytes

/-- The UTF-8 bytes of a string. -/
def ofText (text : String) : Bytes := text.toByteArray.data.toList

/-- The string that the bytes spell, with a replacement character for each ill-formed part. -/
def toText (bytes : Bytes) : String := String.ofList (Utf8.decode bytes)

/-- The string that the bytes spell, if they are UTF-8. -/
def toText? (bytes : Bytes) : Option String :=
  if Utf8.Valid bytes then some bytes.toText else none

end Bytes

end SyntaxForest
