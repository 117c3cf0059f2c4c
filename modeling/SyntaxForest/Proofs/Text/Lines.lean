import SyntaxForest.Text.Point

/-!
# Lines of a text

A line feed ends a line, together with a carriage return in front of it, if one stands there. What
follows the last line feed is a line as well, which may be empty, so every text in front of an
offset falls into whole lines and the beginning of one more. No other bytes than a line feed read as
one, so what is read has no more lines than the bytes.

## Main definitions

* `rowText?`: the line of a row, without what ends it

## Main results

* `exists_lines`: whole lines, and the beginning of one more
* `rowText?_append`: the line behind whole lines
* `Utf8.newline_mem_of_mem_decode`: a line feed that is read stands in the bytes
-/

namespace SyntaxForest

/-- A line without the carriage return at its end. -/
def withoutReturn (line : Bytes) : Bytes := if line.getLast? = some 13 then line.dropLast else line

/-- The line of a row, without what ends it. Only a line that a line feed ends may end in a carriage
return as well. -/
def rowText? (source : Bytes) (row : Nat) : Option Bytes :=
  let pieces := source.splitOn Ascii.newline
  pieces[row]?.map fun piece => if row + 1 < pieces.length then withoutReturn piece else piece

/-- Every text falls into whole lines and the beginning of one more. -/
theorem exists_lines (text : Bytes) :
    ∃ before, text = before ++ lastLine text ∧
      (before = [] ∨ ∃ front, before = front ++ [Ascii.newline]) ∧
      Ascii.newline ∉ lastLine text := by
  refine ⟨(text.reverse.dropWhile (· ≠ Ascii.newline)).reverse, ?_, ?_, fun ends => ?_⟩
  · rw [lastLine, ← List.reverse_append, List.takeWhile_append_dropWhile, List.reverse_reverse]
  · cases rest : text.reverse.dropWhile (· ≠ Ascii.newline) with
    | nil => exact .inl rfl
    | cons b rest' =>
      have stops := List.head?_dropWhile_not (· ≠ Ascii.newline) text.reverse
      rw [rest] at stops
      obtain rfl : b = Ascii.newline := by simpa using stops
      exact .inr ⟨rest'.reverse, List.reverse_cons⟩
  · simpa using List.all_eq_true.mp List.all_takeWhile _ (List.mem_reverse.mp ends)

/-- There is one line more than line feeds. -/
theorem length_splitOn_newline (text : Bytes) :
    (text.splitOn Ascii.newline).length = text.count Ascii.newline + 1 := by
  induction text with
  | nil => rfl
  | cons b text ih =>
    rw [List.splitOn_cons_eq_if_modifyHead, List.count_cons]
    split
    next => rw [List.length_cons, ih]
    next => rw [List.length_modifyHead, ih, Nat.add_zero]

/-- Whole lines hold a line feed for each line up to the last of them. -/
theorem count_newline_concat (front : Bytes) :
    (front ++ [Ascii.newline]).count Ascii.newline = (front.splitOn Ascii.newline).length := by
  rw [length_splitOn_newline, List.count_append, List.count_singleton_self]

/-- The lines behind whole lines are those of what follows them. -/
theorem rowText?_append {before : Bytes}
    (ends : before = [] ∨ ∃ front, before = front ++ [Ascii.newline]) (text : Bytes) (row : Nat) :
    rowText? (before ++ text) (before.count Ascii.newline + row) = rowText? text row := by
  obtain rfl | ⟨front, rfl⟩ := ends
  · rw [List.count_nil, Nat.zero_add, List.nil_append]
  · have inside : (front.splitOn Ascii.newline).length + row + 1 <
        (front.splitOn Ascii.newline).length + (text.splitOn Ascii.newline).length ↔
        row + 1 < (text.splitOn Ascii.newline).length := by
      omega
    rw [count_newline_concat, List.append_assoc, List.singleton_append]
    simp only [rowText?, List.splitOn_append_cons_self, List.length_append, inside,
      List.getElem?_append_right (Nat.le_add_right _ row), Nat.add_sub_cancel_left]

/-! ## Line feeds that are read -/

namespace Utf8

/-- The bits of a character that is read halfway, so far as they keep it from being a line feed: the
lead of two bytes is not too small, and longer characters begin with other bits than zero. -/
def IsBeyondAscii : State → Nat → Prop
  | .start, _ | .afterE0, _ | .afterF0, _ => True
  | .tail1, bits => 2 ≤ bits
  | .tail2, bits | .tail3, bits | .afterED, bits | .afterF4, bits => 1 ≤ bits

variable {q q' : State} {bits : Nat} {b : UInt8} {text : Bytes}

theorem isBeyondAscii_start (bits : Nat) : IsBeyondAscii .start bits := trivial

theorem isBeyondAscii_firstBits (h : first b = some q') : IsBeyondAscii q' (firstBits b) := by
  simp only [first, UInt8.le_iff_toNat_le, UInt8.lt_iff_toNat_lt, ← UInt8.toNat_inj,
    UInt8.reduceToNat] at h
  simp only [firstBits, UInt8.le_iff_toNat_le, UInt8.reduceToNat]
  grind [IsBeyondAscii]

/-- The next byte keeps the bits so. -/
theorem IsBeyondAscii.addBits (beyond : IsBeyondAscii q bits) (h : step q b = some q') :
    IsBeyondAscii q' (Utf8.addBits q bits b) := by
  cases q with
  | start => exact isBeyondAscii_firstBits h
  | _ =>
    simp only [step, within, UInt8.le_iff_toNat_le, UInt8.reduceToNat] at h
    grind [IsBeyondAscii, Utf8.addBits]

/-- A character that a byte ends is that byte or is none of ASCII. -/
theorem IsBeyondAscii.addBits_of_step (beyond : IsBeyondAscii q bits)
    (h : step q b = some .start) :
    Utf8.addBits q bits b = b.toNat ∨ 0x80 ≤ Utf8.addBits q bits b := by
  cases q with
  | start =>
    left
    simp only [step, first, UInt8.le_iff_toNat_le, UInt8.reduceToNat] at h
    simp only [Utf8.addBits, firstBits, UInt8.le_iff_toNat_le, UInt8.reduceToNat]
    grind
  | _ =>
    right
    simp only [step, within] at h
    grind [IsBeyondAscii, Utf8.addBits]

theorem eq_of_ofNat_eq_newline {n : Nat} (h : Char.ofNat n = '\n') : n = 10 := by
  by_cases valid : n.isValidChar
  · rw [Char.ofNat, dif_pos valid] at h
    exact congrArg Char.toNat h
  · rw [Char.ofNat, dif_neg valid] at h
    exact absurd h (by decide)

theorem newline_mem_of_mem_decodeFrom (beyond : IsBeyondAscii q bits)
    (h : '\n' ∈ decodeFrom q bits text) : Ascii.newline ∈ text := by
  have here {n : Nat} {b : UInt8} {rest : Bytes} (read : '\n' = Char.ofNat n)
      (code : n = b.toNat ∨ 0x80 ≤ n) : Ascii.newline ∈ b :: rest := by
    obtain rfl := eq_of_ofNat_eq_newline read.symm
    have same : Ascii.newline = b := UInt8.toNat_inj.mp (code.resolve_right (by decide))
    rw [same]
    exact List.mem_cons_self
  have other : '\n' ≠ replacement := by decide
  induction text generalizing q bits with
  | nil =>
    rw [decodeFrom] at h
    split at h <;> simp [other] at h
  | cons b rest ih =>
    have later {q : State} {bits : Nat} (beyond : IsBeyondAscii q bits)
        (h : '\n' ∈ decodeFrom q bits rest) : Ascii.newline ∈ b :: rest :=
      List.mem_cons_of_mem b (ih beyond h)
    rw [decodeFrom] at h
    split at h
    next ends =>
      rcases List.mem_cons.mp h with read | h
      · exact here read (beyond.addBits_of_step ends)
      · exact later (isBeyondAscii_start _) h
    next q' goesOn => exact later (beyond.addBits goesOn) h
    next =>
      split at h
      next => exact later (isBeyondAscii_start _) ((List.mem_cons.mp h).resolve_left other)
      next =>
        split at h
        next single =>
          rcases List.mem_cons.mp ((List.mem_cons.mp h).resolve_left other) with read | h
          · exact here read (.inl rfl)
          · exact later (isBeyondAscii_start _) h
        next q' lead =>
          exact later (isBeyondAscii_firstBits lead) ((List.mem_cons.mp h).resolve_left other)
        next =>
          exact later (isBeyondAscii_start _) ((List.mem_cons.mp
            ((List.mem_cons.mp h).resolve_left other)).resolve_left other)

/-- **A line feed that is read stands in the bytes**, also where they are ill-formed. -/
theorem newline_mem_of_mem_decode (h : '\n' ∈ decode text) : Ascii.newline ∈ text :=
  newline_mem_of_mem_decodeFrom (isBeyondAscii_start 0) h

end Utf8

end SyntaxForest
