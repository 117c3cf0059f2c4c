import SyntaxForest.Text.Utf8

/-!
# Character boundaries

A text that is cut between two of its characters falls into two texts, and no other cut does that.
As an ASCII byte is a character of its own, a cut in front of one or behind one is such a cut.

## Main definitions

* `Utf8.IsCharStart`: a character of the text begins at an offset
* `Utf8.slice?`: the text between two boundaries

## Main results

* `Utf8.isBoundary_iff`: the boundaries of a text are where it can be cut
* `Utf8.Valid.split`: a cut in front of an ASCII byte
* `Utf8.valid_cons_iff`: a cut behind one
* `Utf8.Valid.of_append`: what stands in front of a text is a text where the whole is one
* `Utf8.decode_append`: ASCII bytes are read one by one
-/

namespace SyntaxForest.Utf8

/-- A character of the text begins at the offset: it lies in the text and cuts it into two texts. -/
structure IsCharStart (text : Bytes) (offset : Nat) : Prop where
  /-- There is a byte at the offset. -/
  inside : offset < text.length
  /-- What stands before is a text. -/
  before : Valid (text.take offset)
  /-- What stands from there on is a text. -/
  behind : Valid (text.drop offset)

theorem run_append (q : State) (a b : Bytes) : run q (a ++ b) = (run q a).bind (run · b) := by
  induction a generalizing q with
  | nil => rfl
  | cons x a ih => simp only [List.cons_append, run, Option.bind_assoc, ih]

/-- A character goes on with continuation bytes only. -/
theorem continues_of_step_eq {q q' : State} {b : UInt8} (inside : q ≠ .start)
    (h : step q b = some q') : 0x80 ≤ b ∧ b ≤ 0xBF := by
  have bounds {low high : UInt8} {next : State} (h : within low high b next = some q')
      (hlow : 0x80 ≤ low) (hhigh : high ≤ 0xBF) : 0x80 ≤ b ∧ b ≤ 0xBF := by
    unfold within at h
    split at h
    next between => exact ⟨UInt8.le_trans hlow between.1, UInt8.le_trans between.2 hhigh⟩
    next => cases h
  cases q with
  | start => exact absurd rfl inside
  | _ => exact bounds h (by decide) (by decide)

/-- No character begins with a continuation byte. -/
theorem first_eq_none {b : UInt8} (h : 0x80 ≤ b ∧ b ≤ 0xBF) : first b = none := by
  have later : ¬ b ≤ 0x7F := by grind
  have early : b < 0xC2 := by grind
  simp only [first, later, early, if_false, if_true]

theorem first_of_lt {b : UInt8} (ascii : b < 0x80) : first b = some .start := by
  have single : b ≤ 0x7F := by grind
  simp only [first, single, if_true]

/-- An ASCII byte is read between two characters only. -/
theorem start_of_step_eq {q q' : State} {b : UInt8} (ascii : b < 0x80)
    (h : step q b = some q') : q = .start ∧ q' = .start := by
  obtain rfl : q = .start := Decidable.byContradiction fun inside =>
    UInt8.not_le.mpr ascii (continues_of_step_eq inside h).1
  exact ⟨rfl, (Option.some.inj ((first_of_lt ascii).symm.trans h)).symm⟩

section Cuts

variable {a b : Bytes}

/-- The machine stands between characters at a cut, unless a character goes on behind it. -/
theorem Valid.cut (h : Valid (a ++ b))
    (stops : ∀ x, b.head? = some x → ¬ (0x80 ≤ x ∧ x ≤ 0xBF)) : Valid a ∧ Valid b := by
  rw [Valid, run_append, Option.bind_eq_some_iff] at h
  obtain ⟨q, before, behind⟩ := h
  -- In any other state a character is under way, and the next byte goes on with it.
  suffices q = .start by
    subst this
    exact ⟨before, behind⟩
  cases b with
  | nil => exact Option.some.inj behind
  | cons x b =>
    refine Decidable.byContradiction fun inside => ?_
    obtain ⟨q', next, -⟩ := Option.bind_eq_some_iff.mp behind
    exact stops x rfl (continues_of_step_eq inside next)

/-- A cut in front of an ASCII byte, or at the end, makes two texts. -/
theorem Valid.split (h : Valid (a ++ b)) (ascii : ∀ x, b.head? = some x → x < 0x80) :
    Valid a ∧ Valid b :=
  h.cut fun x hx bounds => UInt8.not_le.mpr (ascii x hx) bounds.1

/-- A text does not begin with a continuation byte. -/
theorem Valid.not_continues (h : Valid b) {x : UInt8} (hx : b.head? = some x) :
    ¬ (0x80 ≤ x ∧ x ≤ 0xBF) := by
  intro bounds
  obtain ⟨rest, rfl⟩ := List.head?_eq_some_iff.mp hx
  have begun : (first x).bind (run · rest) = some .start := h
  rw [first_eq_none bounds] at begun
  cases begun

/-- What stands in front of a text is a text where the whole is one. -/
theorem Valid.of_append (h : Valid (a ++ b)) (behind : Valid b) : Valid a :=
  (h.cut fun _ hx => behind.not_continues hx).1

/-- An ASCII byte is a character of its own. -/
theorem valid_cons_iff {x : UInt8} (ascii : x < 0x80) : Valid (x :: b) ↔ Valid b := by
  have one : run .start (x :: b) = run .start b := by
    show (first x).bind (run · b) = run .start b
    rw [first_of_lt ascii, Option.bind_some]
  rw [Valid, Valid, one]

/-- What stands behind an ASCII byte of a text is a text. -/
theorem Valid.behind {x : UInt8} (h : Valid (a ++ x :: b)) (ascii : x < 0x80) : Valid b :=
  (valid_cons_iff ascii).mp (h.split fun _ hy => Option.some.inj hy ▸ ascii).2

/-- ASCII bytes in front of a text are characters of their own. -/
theorem valid_append_iff (ascii : ∀ x ∈ a, x < 0x80) : Valid (a ++ b) ↔ Valid b := by
  induction a with
  | nil => rfl
  | cons x a ih =>
    obtain ⟨first, later⟩ := List.forall_mem_cons.mp ascii
    rw [List.cons_append, valid_cons_iff first, ih later]

/-- What stands behind a text is one exactly where the whole is. -/
theorem Valid.append_iff (front : Valid a) : Valid (a ++ b) ↔ Valid b := by
  have whole : run .start (a ++ b) = run .start b := by
    rw [run_append, front, Option.bind_some]
  rw [Valid, Valid, whole]

/-- A text at the end of another begins with a character of it. -/
theorem isCharStart_length (h : Valid (a ++ b)) (ne_nil : b ≠ []) (behind : Valid b) :
    IsCharStart (a ++ b) a.length := by
  refine ⟨?_, ?_, ?_⟩
  · rw [List.length_append]
    exact Nat.lt_add_of_pos_right (List.length_pos_iff.mpr ne_nil)
  · rw [List.take_left]
    exact h.of_append behind
  · rwa [List.drop_left]

end Cuts

/-! ## Slices -/

/-- The bytes between two offsets of a text. There are none to be had when the offsets are not in
order, when one lies past the end, or when one lies inside a character. -/
def slice? (text : Bytes) (start stop : Nat) : Option Bytes :=
  if start ≤ stop ∧ isBoundary text start ∧ isBoundary text stop then
    some ((text.drop start).take (stop - start))
  else none

/-- **The boundaries of a text** are the offsets at which it can be cut into two texts. -/
theorem isBoundary_iff {text : Bytes} (valid : Valid text) (offset : Nat) :
    isBoundary text offset = true ↔
      offset ≤ text.length ∧ Valid (text.take offset) ∧ Valid (text.drop offset) := by
  have outside (b : UInt8) : (b < 0x80 || 0xC0 ≤ b) = true ↔ ¬ (0x80 ≤ b ∧ b ≤ 0xBF) := by
    simp only [Bool.or_eq_true, decide_eq_true_eq]
    grind
  have here : (text.drop offset).head? = text[offset]? := List.head?_drop
  rw [isBoundary]
  split
  next b found =>
    rw [found] at here
    have inside : offset ≤ text.length := Nat.le_of_lt (List.getElem?_eq_some_iff.mp found).1
    rw [outside]
    refine ⟨fun stops => ⟨inside, ?_⟩, fun cut => cut.2.2.not_continues here⟩
    rw [← List.take_append_drop offset text] at valid
    exact valid.cut fun x hx => Option.some.inj (here.symm.trans hx) ▸ stops
  next missing =>
    have past : text.length ≤ offset := List.getElem?_eq_none_iff.mp missing
    rw [decide_eq_true_eq]
    constructor
    · rintro rfl
      rw [List.take_length, List.drop_length]
      exact ⟨Nat.le_refl _, valid, rfl⟩
    · exact fun cut => Nat.le_antisymm cut.1 past

theorem slice?_append {a b c : Bytes} (valid : Valid (a ++ (b ++ c))) (middle : Valid (b ++ c))
    (behind : Valid c) :
    slice? (a ++ (b ++ c)) a.length (a.length + b.length) = some b := by
  have front : isBoundary (a ++ (b ++ c)) a.length = true := by
    rw [isBoundary_iff valid, List.take_left, List.drop_left]
    exact ⟨(List.prefix_append _ _).length_le, valid.of_append middle, middle⟩
  have rear : isBoundary (a ++ (b ++ c)) (a.length + b.length) = true := by
    rw [← List.append_assoc] at valid ⊢
    rw [isBoundary_iff valid, ← List.length_append, List.take_left, List.drop_left]
    exact ⟨(List.prefix_append _ _).length_le, valid.of_append behind, behind⟩
  rw [slice?, if_pos ⟨Nat.le_add_right _ _, front, rear⟩, List.drop_left, Nat.add_sub_cancel_left,
    List.take_left]

/-! ## Characters of a text -/

/-- Every byte is read as some character. -/
theorem decodeFrom_eq_nil {q : State} {bits : Nat} {text : Bytes}
    (h : decodeFrom q bits text = []) : q = .start ∧ text = [] := by
  induction text generalizing q bits with
  | nil =>
    rw [decodeFrom] at h
    split at h
    next starts => exact ⟨starts, rfl⟩
    next => cases h
  | cons b rest ih =>
    rw [decodeFrom] at h
    split at h
    next => cases h
    next q' inside _ => exact absurd (ih h).1 inside
    next =>
      split at h
      next => cases h
      next => split at h <;> cases h

/-- ASCII bytes are read one by one. -/
theorem decode_append {a : Bytes} (ascii : ∀ b ∈ a, b < 0x80) (b : Bytes) :
    decode (a ++ b) = decode a ++ decode b := by
  induction a with
  | nil => rfl
  | cons x a ih =>
    have one (rest : Bytes) :
        decode (x :: rest) = Char.ofNat (addBits .start 0 x) :: decode rest := by
      have ended : step .start x = some .start := first_of_lt (ascii x List.mem_cons_self)
      rw [decode, decodeFrom, ended]
      rfl
    rw [List.cons_append, one, one, ih fun y hy => ascii y (List.mem_cons_of_mem x hy),
      List.cons_append]

end SyntaxForest.Utf8
