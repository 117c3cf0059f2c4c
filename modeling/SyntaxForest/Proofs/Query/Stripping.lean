import Mathlib.Data.List.Basic
import SyntaxForest.Proofs.Query.Reading

/-!
# Forms left in a stripped query

The engine is given the structural text of a query, so that it never meets a predicate form. Reading
the structural text again finds no form, and gives the same text, as long as the spaces that stand
for a form do not join the bracket before it with a hash sign behind it. In `((#a? @x) #b? @x)` they
do: the outer bracket opens no form, but it opens one in the structural text.

## Main definitions

* `HashFollows`: pieces whose first, white space and forms apart, is a hash sign
* `Regroups`: pieces in which a bracket comes to stand before such pieces

## Main results

* `extract_structural_iff`: reading the structural text again finds no form exactly when no bracket
  regroups
* `extract_structural_ne`: a query where it does
-/

namespace SyntaxForest.Query

/-- The piece is white space in the structural text: a form, or a byte of white space. -/
def Piece.IsGap (p : Piece) : Prop :=
  p.form.isSome = true ∨ ∃ b, Ascii.isBlank b = true ∧ p.text = [b]

/-- Behind white space and forms comes a hash sign. -/
inductive HashFollows : List Piece → Prop
  /-- The next piece is the hash sign. -/
  | hash {p : Piece} {ps : List Piece} (h : p.text = [Ascii.hash]) : HashFollows (p :: ps)
  /-- The next piece is white space or a form. -/
  | gap {p : Piece} {ps : List Piece} (h : p.IsGap) (tail : HashFollows ps) :
      HashFollows (p :: ps)

/-- A parenthesis that opens no form stands before white space and forms with a hash sign behind
them. -/
inductive Regroups : List Piece → Prop
  /-- The first piece is the parenthesis. -/
  | here {p : Piece} {ps : List Piece} (opens : p.text = [Ascii.openParen]) (plain : p.form = none)
      (tail : HashFollows ps) : Regroups (p :: ps)
  /-- The parenthesis comes later. -/
  | later {p : Piece} {ps : List Piece} (tail : Regroups ps) : Regroups (p :: ps)

variable {depth offset : Nat} {text : Bytes} {ps : List Piece}

theorem hashFollows_cons {p : Piece} :
    HashFollows (p :: ps) ↔ p.text = [Ascii.hash] ∨ p.IsGap ∧ HashFollows ps := by
  constructor
  · intro h
    cases h with
    | hash h => exact .inl h
    | gap h tail => exact .inr ⟨h, tail⟩
  · rintro (h | ⟨h, tail⟩)
    · exact .hash h
    · exact .gap h tail

theorem regroups_cons {p : Piece} :
    Regroups (p :: ps) ↔
      (p.text = [Ascii.openParen] ∧ p.form = none ∧ HashFollows ps) ∨ Regroups ps := by
  constructor
  · intro h
    cases h with
    | here opens plain tail => exact .inl ⟨opens, plain, tail⟩
    | later tail => exact .inr tail
  · rintro (⟨opens, plain, tail⟩ | tail)
    · exact .here opens plain tail
    · exact .later tail

/-! ## The front of a structural text -/

theorem isBlank_of_mem_blank {b : UInt8} (h : b ∈ blank text) : Ascii.isBlank b = true := by
  simp only [blank, List.mem_map] at h
  obtain ⟨c, -, rfl⟩ := h
  split <;> decide

/-- A step's piece that is no form shows its own bytes. -/
theorem Lexeme.structural_piece {l : Lexeme} (plain : l.form = none) (b : UInt8) (rest : Bytes) :
    (l.piece depth offset b rest).structural = b :: rest.take l.more := by
  simp [Piece.structural, plain]

/-- The front of the structural text is that of the text, unless a form stands there. -/
theorem Reading.head?_structuralText (h : Reading depth offset text ps) :
    (structuralText ps).head? = text.head? ∨
      text.head? = some Ascii.openParen ∧ (structuralText ps).head? = some Ascii.space := by
  cases h with
  | nil => exact .inl rfl
  | cons step tail =>
    cases step with
    | form opens inside read => exact .inr ⟨rfl, rfl⟩
    | _ => exact .inl rfl

/-- Bytes of a kind that the text does not begin with do not begin its structural text either. -/
theorem Reading.boundary_structuralText (h : Reading depth offset text ps) {p : UInt8 → Bool}
    (hp : p Ascii.openParen = false → p Ascii.space = false)
    (boundary : ∀ b, text.head? = some b → p b = false) {b : UInt8}
    (hb : (structuralText ps).head? = some b) : p b = false := by
  rcases h.head?_structuralText with same | ⟨paren, space⟩
  · exact boundary b (same ▸ hb)
  -- A form's parenthesis has become a space, which is why `p` may not hold of spaces alone.
  · obtain rfl : Ascii.space = b := Option.some.inj (space.symm.trans hb)
    exact hp (boundary _ paren)

theorem opensForm_append {run : Bytes} (h : ∀ b ∈ run, Ascii.isBlank b = true) (rest : Bytes) :
    opensForm (run ++ rest) = opensForm rest := by
  rw [opensForm, opensForm, List.dropWhile_append_of_pos h]

theorem opensForm_cons {b : UInt8} (h : Ascii.isBlank b = false) (rest : Bytes) :
    opensForm (b :: rest) = decide (b = Ascii.hash) := by
  simp [opensForm, h]

/-- White space and hash signs stand alone. -/
theorem Step.eq_of_isBlank_or_hash {b : UInt8} {rest : Bytes} {l : Lexeme}
    (h : Step depth offset rest b l) (hb : Ascii.isBlank b = true ∨ b = Ascii.hash) :
    l = ⟨0, none, depth⟩ := by
  cases h with
  | other => rfl
  | close closes =>
    rcases closes with rfl | rfl <;> exact absurd hb (by decide)
  | _ => exact absurd hb (by decide)

/-- A parenthesis before the structural text opens a form exactly when a hash sign follows. -/
theorem Reading.opensForm_structuralText_iff (h : Reading depth offset text ps) :
    opensForm (structuralText ps) = true ↔ HashFollows ps := by
  -- Gaps are passed on both sides until a piece decides the matter.
  induction h with
  | nil =>
    constructor
    · intro h
      exact absurd h (by decide)
    · intro h
      cases h
  | @cons depth offset b rest l ps step tail ih =>
    rw [structuralText_cons, hashFollows_cons]
    cases hf : l.form with
    | some form =>
      -- A form is passed: it is white space in the structural text.
      have shown : (l.piece depth offset b rest).structural = blank (b :: rest.take l.more) := by
        simp [Piece.structural, hf]
      have isGap : (l.piece depth offset b rest).IsGap := .inl (by simp [hf])
      have notHash : (l.piece depth offset b rest).text ≠ [Ascii.hash] := by
        cases step with
        | form => exact fun h => absurd (List.cons.inj h).1 (by decide)
        | _ => cases hf
      rw [shown, opensForm_append fun b hb => isBlank_of_mem_blank hb, ih]
      simp only [notHash, isGap, true_and, false_or]
    | none =>
      rw [Lexeme.structural_piece hf]
      by_cases hb : Ascii.isBlank b = true
      · -- A byte of white space is passed on both sides.
        obtain rfl := step.eq_of_isBlank_or_hash (.inl hb)
        have isGap : Piece.IsGap (Lexeme.piece ⟨0, none, depth⟩ depth offset b rest) :=
          .inr ⟨b, hb, rfl⟩
        have notHash : (Lexeme.piece ⟨0, none, depth⟩ depth offset b rest).text ≠ [Ascii.hash] := by
          rintro h
          exact absurd ((List.cons.inj h).1 ▸ hb) (by decide)
        rw [opensForm_append (by simpa using hb), ih]
        simp only [notHash, isGap, true_and, false_or]
      · -- Any other byte decides the matter.
        have hb : Ascii.isBlank b = false := by simpa using hb
        have notGap : ¬ (l.piece depth offset b rest).IsGap := by
          rintro (isForm | ⟨c, hc, shown⟩)
          · simp [hf] at isForm
          · obtain rfl := (List.cons.inj shown).1
            exact absurd hc (by simp [hb])
        rw [List.cons_append, opensForm_cons hb]
        simp only [decide_eq_true_eq, notGap, false_and, or_false]
        constructor
        · rintro rfl
          obtain rfl := step.eq_of_isBlank_or_hash (.inr rfl)
          rfl
        · exact fun h => (List.cons.inj h).1

/-! ## Reading the structural text -/

/-- A run of bytes is as long in front of the structural text of what stands behind it. -/
theorem Reading.takeWhile_structuralText {p : UInt8 → Bool} {rest : Bytes}
    (hp : p Ascii.openParen = false → p Ascii.space = false)
    (tail : Reading depth offset (rest.drop (rest.takeWhile p).length) ps) :
    rest.take (rest.takeWhile p).length = rest.takeWhile p ∧
      (rest.take (rest.takeWhile p).length ++ structuralText ps).takeWhile p =
        rest.takeWhile p := by
  have front : rest.take (rest.takeWhile p).length = rest.takeWhile p :=
    (List.prefix_iff_eq_take.mp (List.takeWhile_prefix p)).symm
  refine ⟨front, ?_⟩
  rw [front]
  refine takeWhile_append_boundary (fun b hb => ?_) fun b hb => ?_
  · exact List.all_eq_true.mp List.all_takeWhile b hb
  · exact tail.boundary_structuralText hp (fun _ => head?_drop_takeWhile) hb

/-- Steps other than at parentheses are taken again in front of the structural text. -/
theorem Step.again {b : UInt8} {rest : Bytes} {l : Lexeme} (h : Step depth offset rest b l)
    (notParen : b ≠ Ascii.openParen)
    (tail : Reading l.depth (offset + 1 + l.more) (rest.drop l.more) ps) (offset' : Nat) :
    Step depth offset' (rest.take l.more ++ structuralText ps) b l ∧
      (rest.take l.more).length = l.more ∧ l.form = none := by
  -- Comments and names run up to a byte that ends them, strings through their closing quote.
  cases h with
  | comment =>
    obtain ⟨front, again⟩ := tail.takeWhile_structuralText (by decide)
    have step : Step depth offset' (rest.take (rest.takeWhile (· ≠ Ascii.newline)).length ++
      structuralText ps) Ascii.semicolon _ := .comment
    rw [again] at step
    exact ⟨step, congrArg List.length front, rfl⟩
  | string body =>
    obtain ⟨bound, again⟩ := stringBody_append body
    exact ⟨.string (again _), List.length_take_of_le bound, rfl⟩
  | form => exact absurd rfl notParen
  | paren => exact absurd rfl notParen
  | bracket => exact ⟨.bracket, by simp, rfl⟩
  | close closes => exact ⟨.close closes, by simp, rfl⟩
  | name =>
    obtain ⟨front, again⟩ := tail.takeWhile_structuralText (by decide)
    have step : Step depth offset' (rest.take (rest.takeWhile isIdentifierByte).length ++
      structuralText ps) Ascii.atSign _ := .name
    rw [again] at step
    exact ⟨step, congrArg List.length front, rfl⟩
  | other alone => exact ⟨.other alone, by simp, rfl⟩

/-- The pass leaves a text as it is behind a step that reads no form exactly when it leaves the
rest as it is. -/
theorem scan_cons_eq_self_iff {b : UInt8} {run rest : Bytes} {l : Lexeme}
    (step : Step depth offset (run ++ rest) b l) (plain : l.form = none)
    (length : run.length = l.more) :
    scan depth offset (b :: (run ++ rest)) = .ok ⟨b :: (run ++ rest), []⟩ ↔
      scan l.depth (offset + 1 + l.more) rest = .ok ⟨rest, []⟩ := by
  rw [scan, step.readLexeme_eq]
  simp only [plain, ← length, List.drop_left, List.take_left]
  cases scan l.depth (offset + 1 + run.length) rest with
  | error d => simp
  | ok e => cases e; simp [Extraction.prepend]

/-- White space is left as it is. -/
theorem scan_append_eq_self_iff {run : Bytes} (h : ∀ b ∈ run, Ascii.isBlank b = true)
    (rest : Bytes) (offset : Nat) :
    scan depth offset (run ++ rest) = .ok ⟨run ++ rest, []⟩ ↔
      scan depth (offset + run.length) rest = .ok ⟨rest, []⟩ := by
  induction run generalizing offset with
  | nil => rfl
  | cons b run ih =>
    have hb : Ascii.isBlank b = true := h b List.mem_cons_self
    have step : Step depth offset ([] ++ (run ++ rest)) b ⟨0, none, depth⟩ := by
      refine .other fun special => ?_
      simp only [List.mem_cons, List.not_mem_nil, or_false] at special
      rcases special with rfl | rfl | rfl | rfl | rfl | rfl | rfl <;> exact absurd hb (by decide)
    rw [List.cons_append, ← List.nil_append (run ++ rest), scan_cons_eq_self_iff step rfl rfl,
      ih (fun c hc => h c (List.mem_cons_of_mem b hc)), List.length_cons]
    have same : offset + 1 + 0 + run.length = offset + (run.length + 1) := by omega
    simp only [same]

/-- Where a parenthesis opens a form, the pass finds a form or fails. -/
theorem scan_openParen_ne {rest structural : Bytes} (opens : opensForm rest = true) :
    scan depth offset (Ascii.openParen :: rest) ≠ .ok ⟨structural, []⟩ := by
  intro h
  obtain ⟨ps, reading, eq⟩ := scan_eq_ok_iff.mp h
  have noForms : formsOf ps = [] := (congrArg Extraction.predicates eq).symm
  cases reading with
  | cons step tail =>
    rcases step.of_openParen with ⟨-, -, form, n, -, rfl⟩ | ⟨plain, -⟩
    · simp [formsOf_cons] at noForms
    · exact absurd (plain.symm.trans opens) (by decide)

/-- The pass leaves a structural text as it is exactly when no bracket regroups. -/
theorem Reading.scan_structuralText_iff (h : Reading depth offset text ps) (offset' : Nat) :
    scan depth offset' (structuralText ps) = .ok ⟨structuralText ps, []⟩ ↔ ¬ Regroups ps := by
  -- The induction is on the reading of the query; the structural text is read along with it.
  induction h generalizing offset' with
  | nil =>
    refine iff_of_true (by simp [scan]) ?_
    intro h
    cases h
  | @cons depth offset b rest l ps step tail ih =>
    rw [structuralText_cons, regroups_cons]
    by_cases hb : b = Ascii.openParen
    · subst hb
      rcases step.of_openParen with ⟨-, -, form, n, -, rfl⟩ | ⟨-, rfl⟩
      · -- The form is white space in the structural text, and no parenthesis.
        have shown : (Lexeme.piece ⟨n, some form, depth⟩ depth offset Ascii.openParen
            rest).structural = blank (Ascii.openParen :: rest.take n) := rfl
        have isForm : (Lexeme.piece ⟨n, some form, depth⟩ depth offset Ascii.openParen
            rest).form ≠ none := Option.some_ne_none form
        rw [shown, scan_append_eq_self_iff fun b hb => isBlank_of_mem_blank hb, ih]
        simp only [isForm, false_and, and_false, false_or]
      · -- The bracket is one again, unless a hash sign follows it now.
        have shown : (Lexeme.piece ⟨0, none, depth + 1⟩ depth offset Ascii.openParen
            rest).structural = [Ascii.openParen] := rfl
        have isParen : (Lexeme.piece ⟨0, none, depth + 1⟩ depth offset Ascii.openParen
            rest).text = [Ascii.openParen] := rfl
        have isPlain : (Lexeme.piece ⟨0, none, depth + 1⟩ depth offset Ascii.openParen
            rest).form = none := rfl
        rw [shown, List.singleton_append, isParen, isPlain]
        by_cases follows : HashFollows ps
        · simp [follows, scan_openParen_ne (tail.opensForm_structuralText_iff.mpr follows)]
        · have plain : opensForm (structuralText ps) = false := by
            rw [← Bool.not_eq_true, tail.opensForm_structuralText_iff]
            exact follows
          rw [← List.nil_append (structuralText ps),
            scan_cons_eq_self_iff (.paren plain) rfl rfl, ih]
          simp [follows]
    · -- The step is taken again, and its piece is no parenthesis.
      obtain ⟨again, length, plain⟩ := step.again hb tail offset'
      have notParen : (l.piece depth offset b rest).text ≠ [Ascii.openParen] :=
        fun h => hb (List.cons.inj h).1
      rw [Lexeme.structural_piece plain, List.cons_append, scan_cons_eq_self_iff again plain length,
        ih]
      simp only [notParen, false_and, false_or]

/-- **Reading the structural text of a query again finds no form exactly when no bracket
regroups**: no parenthesis that opens no form stands before white space and forms with a hash sign
behind them. -/
theorem extract_structural_iff {source : Bytes} {e : Extraction} (h : extract source = .ok e) :
    extract e.structural = .ok ⟨e.structural, []⟩ ↔
      ∀ ps, Reading 0 0 source ps → ¬ Regroups ps := by
  obtain ⟨ps, reading, rfl⟩ := extract_eq_ok_iff.mp h
  have unique (qs : List Piece) (again : Reading 0 0 source qs) : qs = ps :=
    Except.ok.inj (again.pieces_eq.symm.trans reading.pieces_eq)
  have same : extract (structuralText ps) = .ok ⟨structuralText ps, []⟩ ↔
      scan 0 0 (structuralText ps) = .ok ⟨structuralText ps, []⟩ := by
    rw [extract_eq_ok_iff, scan_eq_ok_iff]
  rw [same, reading.scan_structuralText_iff]
  constructor
  · intro hps qs again
    exact unique qs again ▸ hps
  · exact fun hps => hps ps reading

theorem extract_structural_iff_of_one_form :
    ∃ e, extract (Bytes.ofText "((x) @a (#eq? @a \"y\"))") = .ok e ∧
      (extract e.structural = .ok ⟨e.structural, []⟩ ↔
        ∀ ps, Reading 0 0 (Bytes.ofText "((x) @a (#eq? @a \"y\"))") ps → ¬ Regroups ps) := by
  have extracted : extract (Bytes.ofText "((x) @a (#eq? @a \"y\"))") =
      .ok ⟨Bytes.ofText "((x) @a              )", [⟨8, some (Bytes.ofText "eq?"),
        [.capture (Bytes.ofText "a") 15, .literal (Bytes.ofText "y") 17]⟩]⟩ := by
    decide +kernel
  exact ⟨_, extracted, extract_structural_iff extracted⟩

/-- A bracket that held a form comes to open another one once the form is white space. -/
theorem extract_structural_ne :
    ∃ e, extract (Bytes.ofText "((x) @a ((#b?) #eq? @a \"y\"))") = .ok e ∧
      extract e.structural ≠ .ok ⟨e.structural, []⟩ ∧
      extract e.structural = .ok ⟨Bytes.ofText "((x) @a                    )",
        [⟨8, some (Bytes.ofText "eq?"),
          [.capture (Bytes.ofText "a") 21, .literal (Bytes.ofText "y") 23]⟩]⟩ :=
  ⟨⟨Bytes.ofText "((x) @a (      #eq? @a \"y\"))", [⟨9, some (Bytes.ofText "b?"), []⟩]⟩,
    by decide +kernel, by decide +kernel, by decide +kernel⟩

end SyntaxForest.Query
