import SyntaxForest.Query.Extraction

/-!
# Readings of a query

The pass over a query cuts its text into pieces: comments, strings, forms, brackets, capture names
and single bytes. A reading lists them, each with its place and with the number of brackets open
before and behind it. The structural text and the forms of a query are those of its pieces, so what
the pass does to a whole text is shown piece by piece.

## Main definitions

* `Step`: the steps of the pass, one rule for each kind of piece
* `Piece`, `Reading`: the pieces of a text, and the readings that consist of steps
* `pieces`: the reading of a text, computed

## Main results

* `readLexeme_eq_ok_iff`: the pass takes a step exactly where a rule allows it
* `pieces_eq_ok_iff`: a text has at most one reading
* `scan_eq_ok_iff`: the pass succeeds exactly on the texts with a reading, and its result is that of
  the pieces
-/

namespace SyntaxForest.Query

/-! ## Boundaries -/

/-- A run of bytes ends where the text behind it begins with none of its kind. -/
theorem takeWhile_append_boundary {p : UInt8 → Bool} {run rest : Bytes}
    (inside : ∀ b ∈ run, p b = true) (boundary : ∀ b, rest.head? = some b → p b = false) :
    (run ++ rest).takeWhile p = run := by
  rw [List.takeWhile_append_of_pos inside]
  cases rest with
  | nil => simp
  | cons b rest => simp [boundary b rfl]

/-- What stands behind a run of bytes does not begin with one of its kind. -/
theorem head?_drop_takeWhile {p : UInt8 → Bool} {text : Bytes} {b : UInt8}
    (h : (text.drop (text.takeWhile p).length).head? = some b) : p b = false := by
  induction text with
  | nil => simp at h
  | cons c text ih =>
    by_cases hc : p c = true
    · simp only [List.takeWhile_cons_of_pos hc, List.length_cons, List.drop_succ_cons] at h
      exact ih h
    · simp only [List.takeWhile_cons_of_neg hc, List.length_nil, List.drop_zero, List.head?_cons,
        Option.some.injEq] at h
      exact h ▸ Bool.eq_false_iff.mpr hc

/-! ## Bodies of strings -/

@[simp] theorem stringBody_nil : stringBody [] = none := by simp [stringBody]

@[simp] theorem stringBody_quote (rest : Bytes) :
    stringBody (Ascii.quote :: rest) = some ([], 1) := by
  cases rest <;> simp [stringBody]

@[simp] theorem stringBody_backslash_nil : stringBody [Ascii.backslash] = none := by
  simp [stringBody, Ascii.backslash, Ascii.quote]

@[simp] theorem stringBody_backslash_cons (e : UInt8) (rest : Bytes) :
    stringBody (Ascii.backslash :: e :: rest) =
      (stringBody rest).map fun body => (unescape e :: body.1, body.2 + 2) := by
  simp [stringBody, Ascii.backslash, Ascii.quote]

theorem stringBody_cons {b : UInt8} (notQuote : b ≠ Ascii.quote) (notEscape : b ≠ Ascii.backslash)
    (rest : Bytes) :
    stringBody (b :: rest) = (stringBody rest).map fun body => (b :: body.1, body.2 + 1) := by
  cases rest <;> simp [stringBody, notQuote, notEscape]

/-- The body of a string does not depend on what stands behind its closing quote. -/
theorem stringBody_append {text value : Bytes} {n : Nat} (h : stringBody text = some (value, n)) :
    n ≤ text.length ∧ ∀ rest, stringBody (text.take n ++ rest) = some (value, n) := by
  -- The cases are those of the reader: an escape takes two bytes, every other byte stands alone.
  induction text using stringBody.induct generalizing value n with
  | case1 => simp at h
  | case2 rest =>
    simp only [stringBody_quote, Option.some.injEq, Prod.mk.injEq] at h
    obtain ⟨rfl, rfl⟩ := h
    simp
  | case3 => simp at h
  | case4 e rest _ ih =>
    simp only [stringBody_backslash_cons, Option.map_eq_some_iff] at h
    obtain ⟨⟨value', n'⟩, h, eq⟩ := h
    cases eq
    obtain ⟨bound, again⟩ := ih h
    refine ⟨by simp only [List.length_cons]; omega, fun tail => ?_⟩
    simp [again]
  | case5 b rest notQuote notEscape ih =>
    simp only [stringBody_cons notQuote notEscape, Option.map_eq_some_iff] at h
    obtain ⟨⟨value', n'⟩, h, eq⟩ := h
    cases eq
    obtain ⟨bound, again⟩ := ih h
    refine ⟨by simp only [List.length_cons]; omega, fun tail => ?_⟩
    simp [stringBody_cons notQuote notEscape, again]

/-! ## Arguments of forms -/

theorem readArguments_of_closeParen {start offset : Nat} {text rest : Bytes}
    (h : text.drop (triviaLength false text) = Ascii.closeParen :: rest) :
    readArguments start offset text = .ok ([], triviaLength false text + 1) := by
  rw [readArguments]
  split
  next none => simp [none] at h
  next b rest' some =>
    obtain ⟨rfl, -⟩ := List.cons.inj (some.symm.trans h)
    rfl

/-- An argument goes in front of those that are read behind it. -/
theorem readArguments_of_readArgument {start offset : Nat} {text rest : Bytes} {b : UInt8}
    {a : Argument} {more : Nat}
    (h : text.drop (triviaLength false text) = b :: rest) (inside : b ≠ Ascii.closeParen)
    (first : readArgument (offset + triviaLength false text) b rest = .ok (a, more)) :
    readArguments start offset text =
      (readArguments start (offset + triviaLength false text + 1 + more) (rest.drop more)).map
        fun read => (a :: read.1, triviaLength false text + 1 + more + read.2) := by
  conv => lhs; rw [readArguments]
  split
  next none => simp [none] at h
  next b' rest' some =>
    obtain ⟨rfl, rfl⟩ := List.cons.inj (some.symm.trans h)
    simp only [inside, if_false, first]
    cases readArguments start (offset + triviaLength false text + 1 + more) (rest'.drop more) <;>
      rfl

/-! ## Steps -/

/-- The steps that the pass may take at a byte, with the text `rest` behind it. -/
inductive Step (depth offset : Nat) (rest : Bytes) : UInt8 → Lexeme → Prop
  /-- A comment runs to the end of its line. -/
  | comment : Step depth offset rest Ascii.semicolon
      ⟨(rest.takeWhile (· ≠ Ascii.newline)).length, none, depth⟩
  /-- A string runs through its closing quote. -/
  | string {value : Bytes} {n : Nat} (body : stringBody rest = some (value, n)) :
      Step depth offset rest Ascii.quote ⟨n, none, depth⟩
  /-- A form stands inside a bracket. -/
  | form {form : RawPredicate} {n : Nat} (opens : opensForm rest = true) (inside : 0 < depth)
      (read : readForm offset rest = .ok (form, n)) :
      Step depth offset rest Ascii.openParen ⟨n, some form, depth⟩
  /-- A parenthesis that opens no form is a bracket. -/
  | paren (plain : opensForm rest = false) :
      Step depth offset rest Ascii.openParen ⟨0, none, depth + 1⟩
  /-- A square bracket opens. -/
  | bracket : Step depth offset rest Ascii.openBracket ⟨0, none, depth + 1⟩
  /-- A bracket of either kind closes. -/
  | close {b : UInt8} (closes : b = Ascii.closeParen ∨ b = Ascii.closeBracket) :
      Step depth offset rest b ⟨0, none, depth - 1⟩
  /-- A capture name follows its at sign. -/
  | name : Step depth offset rest Ascii.atSign
      ⟨(rest.takeWhile isIdentifierByte).length, none, depth⟩
  /-- Every other byte stands alone. -/
  | other {b : UInt8} (alone : b ∉ [Ascii.semicolon, Ascii.quote, Ascii.openParen,
      Ascii.openBracket, Ascii.closeParen, Ascii.closeBracket, Ascii.atSign]) :
      Step depth offset rest b ⟨0, none, depth⟩

section Steps

variable {depth offset : Nat} {b : UInt8} {rest : Bytes} {l : Lexeme}

theorem Step.readLexeme_eq (h : Step depth offset rest b l) :
    readLexeme depth offset b rest = .ok l := by
  cases h with
  | comment => rfl
  | string body =>
    simp [readLexeme, body, Ascii.quote, Ascii.semicolon]
  | form opens inside read =>
    simp [readLexeme, opens, read, Nat.pos_iff_ne_zero.mp inside, Ascii.openParen,
      Ascii.semicolon, Ascii.quote]
  | paren plain =>
    simp [readLexeme, plain, Ascii.openParen, Ascii.semicolon, Ascii.quote]
  | bracket => rfl
  | close closes => rcases closes with rfl | rfl <;> rfl
  | name => rfl
  | other alone =>
    simp only [List.mem_cons, List.not_mem_nil, or_false, not_or] at alone
    simp [readLexeme, alone]

theorem Step.of_readLexeme_eq (h : readLexeme depth offset b rest = .ok l) :
    Step depth offset rest b l := by
  -- One split for each test of the reader. The tests that failed before are kept for `other`.
  unfold readLexeme at h
  split at h
  next hb => cases h; exact hb ▸ .comment
  next notComment =>
  split at h
  next hb =>
    split at h
    next => cases h
    next body => cases h; exact hb ▸ .string body
  next notString =>
  split at h
  next hb =>
    simp only [Bool.and_eq_true, decide_eq_true_eq] at hb
    obtain ⟨rfl, opens⟩ := hb
    split at h
    next => cases h
    next inside =>
      split at h
      next => cases h
      next read => cases h; exact .form opens (Nat.pos_iff_ne_zero.mpr inside) read
  next notForm =>
  split at h
  next hb =>
    cases h
    simp only [Bool.or_eq_true, decide_eq_true_eq] at hb
    rcases hb with rfl | rfl
    · exact .paren (by simpa using notForm)
    · exact .bracket
  next notOpening =>
  split at h
  next hb =>
    cases h
    exact .close (by simpa using hb)
  next notClosing =>
  split at h
  next hb => cases h; exact hb ▸ .name
  next notName =>
    cases h
    simp only [Bool.or_eq_true, decide_eq_true_eq, not_or] at notOpening notClosing
    refine .other ?_
    simp only [List.mem_cons, List.not_mem_nil, or_false, not_or]
    exact ⟨notComment, notString, notOpening.1, notOpening.2, notClosing.1, notClosing.2, notName⟩

/-- The pass takes a step exactly where a rule allows it. -/
theorem readLexeme_eq_ok_iff :
    readLexeme depth offset b rest = .ok l ↔ Step depth offset rest b l :=
  ⟨Step.of_readLexeme_eq, Step.readLexeme_eq⟩

/-- A parenthesis opens a form inside a bracket, or it is a bracket. -/
theorem Step.of_openParen (h : Step depth offset rest Ascii.openParen l) :
    (opensForm rest = true ∧ 0 < depth ∧
      ∃ form n, readForm offset rest = .ok (form, n) ∧ l = ⟨n, some form, depth⟩) ∨
    (opensForm rest = false ∧ l = ⟨0, none, depth + 1⟩) := by
  -- The byte is an index of the rules, so it must be a variable when they are told apart.
  generalize hb : Ascii.openParen = b at h
  cases h with
  | form opens inside read => exact .inl ⟨opens, inside, _, _, read, rfl⟩
  | paren plain => exact .inr ⟨plain, rfl⟩
  | close closes => rcases closes with rfl | rfl <;> exact absurd hb (by decide)
  | other alone => exact absurd (by simp [← hb]) alone
  | _ => exact absurd hb (by decide)

end Steps

/-! ## Pieces -/

/-- A stretch of query text that one step reads. -/
structure Piece where
  /-- The offset of its first byte. -/
  offset : Nat
  /-- The number of brackets open before it. -/
  before : Nat
  /-- The number of brackets open behind it. -/
  behind : Nat
  /-- Its bytes. -/
  text : Bytes
  /-- The form that it is. -/
  form : Option RawPredicate
  deriving DecidableEq, Repr

/-- What the structural text holds in place of the piece. -/
def Piece.structural (p : Piece) : Bytes :=
  match p.form with
  | none => p.text
  | some _ => blank p.text

/-- The piece that a step reads. -/
def Lexeme.piece (l : Lexeme) (depth offset : Nat) (b : UInt8) (rest : Bytes) : Piece :=
  ⟨offset, depth, l.depth, b :: rest.take l.more, l.form⟩

section

variable (l : Lexeme) (depth offset : Nat) (b : UInt8) (rest : Bytes)

@[simp] theorem Lexeme.piece_offset : (l.piece depth offset b rest).offset = offset := rfl

@[simp] theorem Lexeme.piece_before : (l.piece depth offset b rest).before = depth := rfl

@[simp] theorem Lexeme.piece_behind : (l.piece depth offset b rest).behind = l.depth := rfl

@[simp] theorem Lexeme.piece_text :
    (l.piece depth offset b rest).text = b :: rest.take l.more := rfl

@[simp] theorem Lexeme.piece_form : (l.piece depth offset b rest).form = l.form := rfl

/-- The next piece begins behind this one. -/
theorem Lexeme.piece_end_le :
    offset + (l.piece depth offset b rest).text.length ≤ offset + 1 + l.more := by
  simp only [piece_text, List.length_cons, List.length_take]
  omega

end

/-- The structural text of the pieces. -/
def structuralText (ps : List Piece) : Bytes := ps.flatMap Piece.structural

/-- The forms among the pieces. -/
def formsOf (ps : List Piece) : List RawPredicate := ps.filterMap Piece.form

@[simp] theorem structuralText_nil : structuralText [] = [] := rfl

@[simp] theorem structuralText_cons (p : Piece) (ps : List Piece) :
    structuralText (p :: ps) = p.structural ++ structuralText ps := rfl

@[simp] theorem formsOf_nil : formsOf [] = [] := rfl

theorem formsOf_cons (p : Piece) (ps : List Piece) :
    formsOf (p :: ps) = p.form.toList ++ formsOf ps := by
  cases h : p.form <;> simp [formsOf, h]

/-- `ps` are the pieces of a text that begins at `offset`, inside `depth` open brackets. -/
inductive Reading : Nat → Nat → Bytes → List Piece → Prop
  /-- Nothing is left to read. -/
  | nil {depth offset : Nat} : Reading depth offset [] []
  /-- A step reads the first piece. -/
  | cons {depth offset : Nat} {b : UInt8} {rest : Bytes} {l : Lexeme} {ps : List Piece}
      (step : Step depth offset rest b l)
      (tail : Reading l.depth (offset + 1 + l.more) (rest.drop l.more) ps) :
      Reading depth offset (b :: rest) (l.piece depth offset b rest :: ps)

/-- The pieces of a text that begins at `offset`, inside `depth` open brackets. -/
def pieces (depth offset : Nat) : Bytes → Except Defect (List Piece)
  | [] => .ok []
  | b :: rest =>
    match readLexeme depth offset b rest with
    | .error d => .error d
    | .ok l =>
      match pieces l.depth (offset + 1 + l.more) (rest.drop l.more) with
      | .error d => .error d
      | .ok ps => .ok (l.piece depth offset b rest :: ps)
termination_by text => text.length
decreasing_by
  simp only [List.length_drop, List.length_cons]
  omega

section Readings

variable {depth offset : Nat} {text : Bytes} {ps : List Piece}

theorem Reading.pieces_eq (h : Reading depth offset text ps) :
    pieces depth offset text = .ok ps := by
  induction h with
  | nil => rw [pieces]
  | cons step tail ih => simp only [pieces, step.readLexeme_eq, ih]

theorem Reading.of_pieces_eq (h : pieces depth offset text = .ok ps) :
    Reading depth offset text ps := by
  induction depth, offset, text using pieces.induct generalizing ps with
  | case1 => rw [pieces] at h; cases h; exact .nil
  | case2 depth offset b rest d hb => simp [pieces, hb] at h
  | case3 depth offset b rest l hb d hrest ih => simp [pieces, hb, hrest] at h
  | case4 depth offset b rest l hb ps' hrest ih =>
    simp only [pieces, hb, hrest, Except.ok.injEq] at h
    subst h
    exact .cons (.of_readLexeme_eq hb) (ih hrest)

/-- A text has at most one reading. -/
theorem pieces_eq_ok_iff : pieces depth offset text = .ok ps ↔ Reading depth offset text ps :=
  ⟨Reading.of_pieces_eq, Reading.pieces_eq⟩

/-- The pass computes the pieces and joins them. -/
theorem scan_eq_map_pieces (depth offset : Nat) (text : Bytes) :
    scan depth offset text =
      (pieces depth offset text).map fun ps => ⟨structuralText ps, formsOf ps⟩ := by
  -- Both recurse at the same places, so one induction serves them.
  induction depth, offset, text using pieces.induct with
  | case1 => rw [scan, pieces]; rfl
  | case2 depth offset b rest d hb => simp [scan, pieces, hb, Except.map]
  | case3 depth offset b rest l hb d hrest ih =>
    rw [hrest] at ih
    simp [scan, pieces, hb, hrest, ih, Except.map]
  | case4 depth offset b rest l hb ps hrest ih =>
    rw [hrest] at ih
    simp only [scan, pieces, hb, hrest, ih, Except.map, Except.ok.injEq]
    cases hf : l.form <;>
      simp [Extraction.prepend, Piece.structural, formsOf_cons, hf]

/-- **The pass succeeds exactly on the texts with a reading**, and its result is that of the
pieces. -/
theorem scan_eq_ok_iff {e : Extraction} :
    scan depth offset text = .ok e ↔
      ∃ ps, Reading depth offset text ps ∧ e = ⟨structuralText ps, formsOf ps⟩ := by
  rw [scan_eq_map_pieces]
  constructor
  · intro h
    cases hp : pieces depth offset text with
    | error d => rw [hp] at h; cases h
    | ok ps =>
      rw [hp] at h
      cases h
      exact ⟨ps, .of_pieces_eq hp, rfl⟩
  · rintro ⟨ps, reading, rfl⟩
    rw [reading.pieces_eq]
    rfl

/-- A step goes in front of what the pass finds behind it. -/
theorem scan_cons {b : UInt8} {rest : Bytes} {l : Lexeme} (step : Step depth offset rest b l) :
    scan depth offset (b :: rest) =
      (scan l.depth (offset + 1 + l.more) (rest.drop l.more)).map
        (·.prepend (b :: rest.take l.more) l.form) := by
  simp only [scan, step.readLexeme_eq]
  cases scan l.depth (offset + 1 + l.more) (rest.drop l.more) <;> rfl

theorem scan_cons_eq_ok {b : UInt8} {rest : Bytes} {l : Lexeme} {e : Extraction}
    (step : Step depth offset rest b l)
    (tail : scan l.depth (offset + 1 + l.more) (rest.drop l.more) = .ok e) :
    scan depth offset (b :: rest) = .ok (e.prepend (b :: rest.take l.more) l.form) := by
  rw [scan_cons step, tail]
  rfl

theorem extract_eq_ok_iff {source : Bytes} {e : Extraction} :
    extract source = .ok e ↔
      ∃ ps, Reading 0 0 source ps ∧ e = ⟨structuralText ps, formsOf ps⟩ := by
  rw [← scan_eq_ok_iff, extract]
  cases scan 0 0 source with
  | error d => exact iff_of_false nofun nofun
  | ok e' =>
    constructor
    · exact fun h => congrArg Except.ok (Except.ok.inj h)
    · exact fun h => congrArg Except.ok (Except.ok.inj h)

end Readings

end SyntaxForest.Query
