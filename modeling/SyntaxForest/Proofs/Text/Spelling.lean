import Mathlib.Data.List.Basic
import Mathlib.Tactic.SplitIfs
import SyntaxForest.Text.Utf8

/-!
# Texts and their characters

The tolerant reading of a text puts a replacement character in the place of what is ill-formed. A
text that is UTF-8 has nothing of that kind: it is spelled by the characters that are read, which
are as many bytes long as the text, and no byte of it is lost.

A character is read byte by byte, and the bits so far tell the bytes so far, as every character has
one spelling only: the machine refuses the longer forms, surrogates and what lies behind the last
character.

## Main definitions

* `Utf8.Begun`: the bytes of a character that is read halfway, told by its bits so far

## Main results

* `Utf8.Begun.next`, `Utf8.Begun.complete`: one more byte goes on with the character or ends it
* `Utf8.Begun.flatMap_decodeFrom`: a text read to its end is spelled by its characters
* `Utf8.Valid.ofText_toText`: a text that is read and written again is the same text
-/

namespace SyntaxForest

namespace Utf8

/-- These are the bytes of a character that is read halfway: the bits so far, cut into the bytes
that they came from. -/
def Begun (q : State) (bits : Nat) (part : Bytes) : Prop :=
  let bytes := part.map UInt8.toNat
  match q with
  | .start => part = []
  | .tail1 =>
    (2 ≤ bits ∧ bits < 0x20 ∧ bytes = [0xC0 + bits]) ∨
    (0x20 ≤ bits ∧ bits < 0x400 ∧ (bits < 0x360 ∨ 0x380 ≤ bits) ∧
      bytes = [0xE0 + bits / 0x40, 0x80 + bits % 0x40]) ∨
    (0x400 ≤ bits ∧ bits < 0x4400 ∧
      bytes = [0xF0 + bits / 0x1000, 0x80 + bits / 0x40 % 0x40, 0x80 + bits % 0x40])
  | .tail2 =>
    (1 ≤ bits ∧ bits < 0x10 ∧ bits ≠ 0xD ∧ bytes = [0xE0 + bits]) ∨
    (0x10 ≤ bits ∧ bits < 0x110 ∧ bytes = [0xF0 + bits / 0x40, 0x80 + bits % 0x40])
  | .tail3 => 1 ≤ bits ∧ bits < 4 ∧ bytes = [0xF0 + bits]
  | .afterE0 => bits = 0 ∧ bytes = [0xE0]
  | .afterED => bits = 0xD ∧ bytes = [0xED]
  | .afterF0 => bits = 0 ∧ bytes = [0xF0]
  | .afterF4 => bits = 4 ∧ bytes = [0xF4]

/-- The bytes that spell a character. -/
theorem map_toNat_utf8EncodeChar {n : Nat} (valid : n.isValidChar) :
    (String.utf8EncodeChar (Char.ofNat n)).map UInt8.toNat =
      if n ≤ 0x7F then [n]
      else if n ≤ 0x7FF then [0xC0 + n / 0x40, 0x80 + n % 0x40]
      else if n ≤ 0xFFFF then [0xE0 + n / 0x1000, 0x80 + n / 0x40 % 0x40, 0x80 + n % 0x40]
      else [0xF0 + n / 0x40000, 0x80 + n / 0x1000 % 0x40, 0x80 + n / 0x40 % 0x40,
        0x80 + n % 0x40] := by
  have value : (Char.ofNat n).val.toNat = n := by
    rw [Char.ofNat, dif_pos valid]
    rfl
  have bound : n < 0x110000 := by
    rcases valid with low | high
    · exact Nat.lt_trans low (by decide)
    · exact high.2
  rw [String.utf8EncodeChar]
  simp only [value]
  split_ifs
  all_goals
    simp only [List.map_cons, List.map_nil, UInt8.toNat_ofNat', List.cons.injEq, and_true]
    omega

section Bytes

variable {q q' : State} {bits : Nat} {b : UInt8} {part : Bytes}

/-- The first byte of a character begins it. -/
theorem begun_firstBits (h : first b = some q') (inside : q' ≠ .start) :
    Begun q' (firstBits b) [b] := by
  simp only [first, ite_eq_iff, UInt8.le_iff_toNat_le, UInt8.lt_iff_toNat_lt, ← UInt8.toNat_inj,
    UInt8.reduceToNat, Option.some.injEq, reduceCtorEq, and_false, false_or, or_false] at h
  -- One case for each test on the first byte, with the tests before it failed.
  rcases h with ⟨-, rfl⟩ | ⟨_, _, ⟨_, rfl⟩ | ⟨_, ⟨_, rfl⟩ | ⟨_, ⟨_, rfl⟩ | ⟨_, ⟨_, rfl⟩ |
    ⟨_, ⟨_, rfl⟩ | ⟨_, ⟨_, rfl⟩ | ⟨_, _, rfl⟩⟩⟩⟩⟩⟩⟩
  · exact absurd rfl inside
  all_goals
    simp only [Begun, firstBits, UInt8.le_iff_toNat_le, UInt8.reduceToNat, List.map_cons,
      List.map_nil, List.cons.injEq, and_true]
    grind

/-- **One more byte**, which does not end the character. -/
theorem Begun.next (begun : Begun q bits part) (h : step q b = some q') (inside : q' ≠ .start) :
    Begun q' (addBits q bits b) (part ++ [b]) := by
  -- In each state but the first, a continuation byte appends its six bits.
  cases q with
  | start =>
    obtain rfl : part = [] := begun
    exact begun_firstBits h inside
  | tail1 =>
    simp only [step, within] at h
    split at h
    next => cases h; exact absurd rfl inside
    next => cases h
  | tail2 =>
    simp only [step, within, UInt8.le_iff_toNat_le, UInt8.reduceToNat] at h
    split at h
    next bounds =>
      cases h
      rcases begun with ⟨low, high, notED, bytes⟩ | ⟨low, high, bytes⟩
      all_goals
        simp only [Begun, addBits, List.map_append, bytes, List.map_cons, List.map_nil,
          List.cons_append, List.nil_append, List.cons.injEq, and_true]
        omega
    next => cases h
  | _ =>
    simp only [step, within, UInt8.le_iff_toNat_le, UInt8.reduceToNat] at h
    split at h
    next bounds =>
      cases h
      simp only [Begun] at begun
      simp only [Begun, addBits, List.map_append, begun, List.map_cons, List.map_nil,
        List.cons_append, List.nil_append, List.cons.injEq, and_true]
      omega
    next => cases h

/-- A byte that is a character of its own is an ASCII byte. -/
theorem le_of_first_eq_start (h : first b = some .start) : b ≤ 0x7F := by
  simpa only [first, ite_eq_iff, Option.some.injEq, reduceCtorEq, and_false, or_false, and_true]
    using h

/-- **The last byte** of a character. -/
theorem Begun.complete (begun : Begun q bits part) (h : step q b = some .start) :
    String.utf8EncodeChar (Char.ofNat (addBits q bits b)) = part ++ [b] := by
  apply List.map_injective_iff.mpr (fun _ _ => UInt8.toNat_inj.mp)
  rw [List.map_append, List.map_cons, List.map_nil]
  cases q with
  | start =>
    obtain rfl : part = [] := begun
    have ascii := le_of_first_eq_start h
    have low : b.toNat ≤ 0x7F := UInt8.le_iff_toNat_le.mp ascii
    rw [addBits, firstBits, if_pos ascii,
      map_toNat_utf8EncodeChar (.inl (Nat.lt_of_le_of_lt low (by decide))), if_pos low]
    rfl
  | tail1 =>
    simp only [step, within, UInt8.le_iff_toNat_le, UInt8.reduceToNat] at h
    split at h
    next bounds =>
      have valid : (bits * 0x40 + b.toNat % 0x40).isValidChar := by
        simp only [Nat.isValidChar]
        simp only [Begun] at begun
        omega
      have added : addBits .tail1 bits b = bits * 0x40 + b.toNat % 0x40 := rfl
      rw [added, map_toNat_utf8EncodeChar valid]
      -- The number of bytes so far tells how long the character is.
      rcases begun with ⟨low, high, bytes⟩ | ⟨low, high, -, bytes⟩ | ⟨low, high, bytes⟩
      · rw [if_neg (by omega), if_pos (by omega), bytes]
        simp only [List.cons_append, List.nil_append, List.cons.injEq, and_true]
        omega
      · rw [if_neg (by omega), if_neg (by omega), if_pos (by omega), bytes]
        simp only [List.cons_append, List.nil_append, List.cons.injEq, and_true]
        omega
      · rw [if_neg (by omega), if_neg (by omega), if_neg (by omega), bytes]
        simp only [List.cons_append, List.nil_append, List.cons.injEq, and_true]
        omega
    next => cases h
  | _ =>
    simp only [step, within] at h
    split at h <;> cases h

end Bytes

/-- A character under way is spelled by what has been read of it and by the text behind it. -/
theorem Begun.flatMap_decodeFrom {q : State} {bits : Nat} {part text : Bytes}
    (begun : Begun q bits part) (valid : run q text = some .start) :
    (decodeFrom q bits text).flatMap String.utf8EncodeChar = part ++ text := by
  -- On a text, the tolerant reading goes where the machine goes.
  induction text generalizing q bits part with
  | nil =>
    obtain rfl : q = .start := Option.some.inj valid
    obtain rfl : part = [] := begun
    rfl
  | cons b rest ih =>
    obtain ⟨q', next, valid⟩ := Option.bind_eq_some_iff.mp valid
    rw [decodeFrom, next]
    by_cases ended : q' = .start
    · -- The character is complete, and the next one begins with no byte read.
      subst ended
      have between : Begun .start 0 [] := rfl
      have later := ih between valid
      rw [List.flatMap_cons, later, begun.complete next, List.nil_append, List.append_assoc,
        List.singleton_append]
    · have later := ih (begun.next next ended) valid
      rw [List.append_assoc, List.singleton_append] at later
      cases q' with
      | start => exact absurd rfl ended
      | _ => exact later

/-- **A text is its characters**: reading it tolerantly replaces nothing. -/
theorem Valid.ofText_toText {text : Bytes} (valid : Valid text) :
    Bytes.ofText text.toText = text := by
  have begun : Begun .start 0 [] := rfl
  have spelled := begun.flatMap_decodeFrom valid
  rw [Bytes.ofText, Bytes.toText, String.toByteArray_ofList, List.utf8Encode,
    List.toList_data_toByteArray]
  exact spelled

end Utf8

end SyntaxForest
