import Mathlib.Data.List.Basic
import SyntaxForest.Proofs.Query.TopLevel
import SyntaxForest.Query.Pattern

/-!
# The bytes that extraction changes

Extraction writes white space over the forms of a query and leaves every other byte where it is, so
that an offset means the same place in the structural text as in the query: what the engine says
about a byte, row or column of the one holds for the other.

## Main definitions

* `FormSpan`, `formSpans`: the forms of a query with the bytes that they take
* `FormSpan.WrittenIn`: the form reader finds the form at these bytes, from parenthesis to
  parenthesis

## Main results

* `readForm_eq_ok`: where a form ends, and where its arguments stand
* `Reading.getElem?_structuralText`: the structural text, byte by byte
* `extract_blanks_spans`: the structural text of a query against its source
-/

namespace SyntaxForest.Query

/-! ## White space for a form -/

/-- What a byte of a form becomes. -/
def blankByte (b : UInt8) : UInt8 := if b = Ascii.newline then Ascii.newline else Ascii.space

@[simp] theorem length_blank (text : Bytes) : (blank text).length = text.length := by
  rw [blank, List.length_map]

theorem getElem?_blank (text : Bytes) (i : Nat) : (blank text)[i]? = text[i]?.map blankByte := by
  rw [blank, List.getElem?_map]
  rfl

theorem blankByte_eq (b : UInt8) : blankByte b = Ascii.space ∨ blankByte b = Ascii.newline := by
  unfold blankByte
  split
  · exact .inr rfl
  · exact .inl rfl

/-- A line end stays one, and no other byte becomes one. -/
theorem blankByte_beq_newline (b : UInt8) :
    (blankByte b == Ascii.newline) = (b == Ascii.newline) := by
  unfold blankByte
  split
  next same => rw [same]
  next other => rw [beq_false_of_ne other]; rfl

/-! ## Where readers end -/

/-- Text stands before what begins behind it. -/
theorem length_take_of_drop_eq_cons {text rest : Bytes} {b : UInt8} {n : Nat}
    (h : text.drop n = b :: rest) : (text.take n).length = n := by
  refine List.length_take_of_le (Nat.le_of_not_lt fun past => ?_)
  rw [List.drop_eq_nil_of_le (Nat.le_of_lt past)] at h
  cases h

section Readers

variable {offset : Nat} {rest : Bytes}

/-- An argument lies in the text, and its offset among its own bytes. -/
theorem readArgument_eq_ok {b : UInt8} {argument : Argument} {more : Nat}
    (h : readArgument offset b rest = .ok (argument, more)) :
    more ≤ rest.length ∧ offset ≤ argument.offset ∧ argument.offset ≤ offset + more := by
  have run (p : UInt8 → Bool) : (rest.takeWhile p).length ≤ rest.length :=
    (List.takeWhile_sublist p).length_le
  unfold readArgument at h
  split at h
  next =>
    split at h
    next => cases h
    next name named =>
      -- A capture's offset is behind its sign, so its name must not be empty.
      cases h
      have : 0 < (rest.takeWhile isIdentifierByte).length :=
        List.length_pos_iff.mpr named
      exact ⟨run _, Nat.le_succ _, by simp only [Argument.offset]; omega⟩
  next =>
    split at h
    next =>
      split at h
      next => cases h
      next value n body =>
        cases h
        exact ⟨(stringBody_append body).1, Nat.le_refl _, Nat.le_add_right _ _⟩
    next =>
      split at h
      next =>
        cases h
        exact ⟨run _, Nat.le_refl _, Nat.le_add_right _ _⟩
      next => cases h

/-- The arguments of a form run up to a closing parenthesis, and stand before it. -/
theorem readArguments_eq_ok {start : Nat} {text : Bytes} {arguments : List Argument} {n : Nat}
    (h : readArguments start offset text = .ok (arguments, n)) :
    ∃ body tail, text = body ++ Ascii.closeParen :: tail ∧ n = body.length + 1 ∧
      ∀ a ∈ arguments, offset ≤ a.offset ∧ a.offset < offset + body.length := by
  -- The cases are those of the reader: no argument, or one and those behind it.
  fun_induction readArguments start offset text generalizing arguments n with
  | case1 => cases h
  | case2 offset text skipped rest =>
    rename_i found
    cases h
    refine ⟨text.take skipped, rest, ?_, by rw [length_take_of_drop_eq_cons found], by simp⟩
    rw [← found, List.take_append_drop]
  | case3 => cases h
  | case4 => cases h
  | case5 offset text skipped b rest found notClosing argument more first arguments' n' later =>
    rename_i ih
    cases h
    obtain ⟨inside, after, before⟩ := readArgument_eq_ok first
    obtain ⟨body, tail, split, rfl, others⟩ := ih later
    have before_b := length_take_of_drop_eq_cons found
    refine ⟨text.take skipped ++ b :: (rest.take more ++ body), tail, ?_, ?_, ?_⟩
    · calc text = text.take skipped ++ b :: (rest.take more ++ rest.drop more) := by
            rw [List.take_append_drop, ← found, List.take_append_drop]
        _ = _ := by rw [split]; simp only [List.append_assoc, List.cons_append]
    · simp only [List.length_append, List.length_cons, before_b, List.length_take_of_le inside]
      omega
    · simp only [List.length_append, List.length_cons, before_b, List.length_take_of_le inside,
        List.forall_mem_cons]
      refine ⟨⟨by omega, by omega⟩, fun a ha => ?_⟩
      obtain ⟨starts, ends⟩ := others a ha
      exact ⟨by omega, by omega⟩

/-- A form runs from its parenthesis to a closing one, with its arguments between them. -/
theorem readForm_eq_ok {form : RawPredicate} {n : Nat}
    (h : readForm offset rest = .ok (form, n)) :
    ∃ body tail, rest = body ++ Ascii.closeParen :: tail ∧ n = body.length + 1 ∧
      ∀ a ∈ form.arguments, offset < a.offset ∧ a.offset < offset + n := by
  unfold readForm at h
  dsimp only at h
  -- The arguments begin behind the hash sign and the operator.
  generalize triviaLength false rest + 1 +
    ((rest.drop (triviaLength false rest + 1)).takeWhile isIdentifierByte).length = opening at h
  split at h
  next => cases h
  next arguments n' read =>
    cases h
    obtain ⟨body, tail, split, rfl, inside⟩ := readArguments_eq_ok read
    have before : (rest.take opening).length = opening := by
      refine List.length_take_of_le (Nat.le_of_not_lt fun past => ?_)
      rw [List.drop_eq_nil_of_le (Nat.le_of_lt past)] at split
      simp at split
    refine ⟨rest.take opening ++ body, tail, ?_, ?_, fun a ha => ?_⟩
    · rw [List.append_assoc, ← split, List.take_append_drop]
    · rw [List.length_append, before, Nat.add_assoc]
    · obtain ⟨starts, ends⟩ := inside a ha
      exact ⟨by omega, by omega⟩

/-- No step reads past the end of the text. -/
theorem Step.more_le {depth : Nat} {b : UInt8} {l : Lexeme} (h : Step depth offset rest b l) :
    l.more ≤ rest.length := by
  cases h with
  | comment => exact (List.takeWhile_sublist _).length_le
  | string body => exact (stringBody_append body).1
  | form opens inside read =>
    obtain ⟨body, tail, split, rfl, -⟩ := readForm_eq_ok read
    rw [split, List.length_append, List.length_cons]
    exact Nat.add_le_add_left (Nat.le_add_left 1 _) _
  | name => exact (List.takeWhile_sublist _).length_le
  | _ => exact Nat.zero_le _

end Readers

/-! ## Spans -/

/-- A form with the end of the bytes that it takes. -/
structure FormSpan where
  /-- The form. -/
  form : RawPredicate
  /-- The offset behind its closing parenthesis. -/
  stop : Nat
  deriving DecidableEq, Repr

namespace FormSpan

/-- The offset of the form's opening parenthesis. -/
def start (s : FormSpan) : Nat := s.form.offset

/-- The offset is that of a byte of the form. -/
def Holds (s : FormSpan) (i : Nat) : Prop := s.start ≤ i ∧ i < s.stop

/-- The form stands in the source from an opening parenthesis to a closing one, with its arguments
between them, and the form reader finds it there. -/
structure WrittenIn (source : Bytes) (s : FormSpan) : Prop where
  start_lt_stop : s.start < s.stop
  stop_le_length : s.stop ≤ source.length
  opens : source[s.start]? = some Ascii.openParen
  closes : source[s.stop - 1]? = some Ascii.closeParen
  holds_offset : ∀ a ∈ s.form.arguments, s.Holds a.offset
  read : readForm s.start (source.drop (s.start + 1)) = .ok (s.form, s.stop - (s.start + 1))

end FormSpan

/-- The span of a piece that is a form. -/
def Piece.span? (p : Piece) : Option FormSpan := p.form.map (⟨·, p.offset + p.text.length⟩)

/-- The spans of the forms among the pieces. -/
def spansOf (ps : List Piece) : List FormSpan := ps.filterMap Piece.span?

/-- The forms of a query with the bytes that they take. -/
def formSpans (source : Bytes) : List FormSpan :=
  match pieces 0 0 source with
  | .ok ps => spansOf ps
  | .error _ => []

theorem Reading.formSpans_eq {source : Bytes} {ps : List Piece} (h : Reading 0 0 source ps) :
    formSpans source = spansOf ps := by
  rw [formSpans, h.pieces_eq]

theorem map_form_spansOf (ps : List Piece) : (spansOf ps).map FormSpan.form = formsOf ps := by
  rw [spansOf, formsOf, List.map_filterMap]
  refine List.filterMap_congr fun p _ => ?_
  rw [Piece.span?, Option.map_map]
  exact Option.map_id'

section

variable {depth offset : Nat} {text : Bytes} {ps : List Piece}

/-- A piece that is no form has no span. -/
theorem spansOf_cons_of_plain {p : Piece} (plain : p.form = none) :
    spansOf (p :: ps) = spansOf ps := by
  rw [spansOf, List.filterMap_cons_none]
  · rfl
  · rw [Piece.span?, plain, Option.map_none]

theorem spansOf_cons_of_form {p : Piece} {form : RawPredicate} (isForm : p.form = some form) :
    spansOf (p :: ps) = ⟨form, p.offset + p.text.length⟩ :: spansOf ps := by
  rw [spansOf, List.filterMap_cons_some]
  · rfl
  · rw [Piece.span?, isForm, Option.map_some]

/-- The next piece begins where a step's piece ends. -/
theorem Step.piece_end {b : UInt8} {rest : Bytes} {l : Lexeme} (h : Step depth offset rest b l) :
    (l.piece depth offset b rest).text.length = 1 + l.more := by
  rw [Lexeme.piece_text, List.length_cons, List.length_take_of_le h.more_le, Nat.add_comm]

/-- Spans come in order, none before the text. -/
theorem Reading.pairwise_spansOf (h : Reading depth offset text ps) :
    (spansOf ps).Pairwise (fun s t => s.start < t.start ∧ s.stop ≤ t.start) ∧
      ∀ s ∈ spansOf ps, offset ≤ s.start := by
  induction h with
  | nil => exact ⟨.nil, by simp [spansOf]⟩
  | @cons depth offset b rest l ps step tail ih =>
    obtain ⟨sorted, after⟩ := ih
    cases hf : l.form with
    | none =>
      rw [spansOf_cons_of_plain ((l.piece_form ..).trans hf)]
      exact ⟨sorted, fun s hs => by have := after s hs; omega⟩
    | some form =>
      obtain ⟨-, -, here⟩ := step.of_form_eq_some hf
      rw [spansOf_cons_of_form ((l.piece_form ..).trans hf),
        step.piece_end]
      refine ⟨List.pairwise_cons.mpr ⟨fun t ht => ?_, sorted⟩, fun t ht => ?_⟩
      · have := after t ht
        simp only [FormSpan.start, Lexeme.piece_offset] at this ⊢
        omega
      · rcases List.mem_cons.mp ht with rfl | ht
        · exact Nat.le_of_eq here.symm
        · have := after t ht
          omega

/-- A form that is read at an offset of the source stands there. -/
theorem writtenIn_of_readForm_eq {source rest : Bytes} {form : RawPredicate} {n : Nat}
    (place : source.drop offset = Ascii.openParen :: rest)
    (read : readForm offset rest = .ok (form, n)) :
    FormSpan.WrittenIn source ⟨form, offset + (1 + n)⟩ := by
  obtain ⟨body, tail, split, rfl, between⟩ := readForm_eq_ok read
  have starts := offset_of_readForm_eq read
  have length := congrArg List.length place
  simp only [List.length_drop, split, List.length_cons, List.length_append] at length
  -- A byte of the text stands in the source behind the offset.
  have same (i : Nat) : source[offset + i]? =
      (Ascii.openParen :: (body ++ Ascii.closeParen :: tail))[i]? := by
    rw [← List.getElem?_drop, place, split]
  have behind : source.drop (offset + 1) = rest := by
    rw [← List.drop_drop, place, List.drop_one, List.tail_cons]
  refine ⟨?_, ?_, ?_, ?_, fun a ha => ?_, ?_⟩
  · show form.offset < offset + (1 + (body.length + 1))
    omega
  · show offset + (1 + (body.length + 1)) ≤ source.length
    omega
  · rw [FormSpan.start, starts]
    exact same 0
  · have last := same (body.length + 1)
    rw [List.getElem?_cons_succ, List.getElem?_append_right (Nat.le_refl _), Nat.sub_self,
      List.getElem?_cons_zero] at last
    have stop : offset + (1 + (body.length + 1)) - 1 = offset + (body.length + 1) := by omega
    exact (congrArg (source[·]?) stop).trans last
  · obtain ⟨after, before⟩ := between a ha
    rw [FormSpan.Holds, FormSpan.start, starts]
    refine ⟨Nat.le_of_lt after, ?_⟩
    show a.offset < offset + (1 + (body.length + 1))
    omega
  · simp only [FormSpan.start, starts, behind, read]
    congr 2
    omega

/-- Each form stands in the source at its span. -/
theorem Reading.writtenIn_of_mem_spansOf (h : Reading depth offset text ps) {source : Bytes}
    (place : source.drop offset = text) : ∀ s ∈ spansOf ps, s.WrittenIn source := by
  -- The text moves along the source with the offset, so that offsets are those of the source.
  induction h with
  | nil => simp [spansOf]
  | @cons depth offset b rest l ps step tail ih =>
    have later := ih (by rw [Nat.add_assoc, ← List.drop_drop, place, Nat.add_comm 1,
      List.drop_succ_cons])
    cases hf : l.form with
    | none =>
      rw [spansOf_cons_of_plain ((l.piece_form ..).trans hf)]
      exact later
    | some form =>
      rw [spansOf_cons_of_form ((l.piece_form ..).trans hf),
        step.piece_end, List.forall_mem_cons]
      refine ⟨?_, later⟩
      cases step with
      | form opens inside read =>
        cases hf
        exact writtenIn_of_readForm_eq place read
      | _ => cases hf

/-! ## The structural text -/

@[simp] theorem Piece.length_structural (p : Piece) : p.structural.length = p.text.length := by
  cases h : p.form <;> simp [Piece.structural, h]

/-- **The structural text, byte by byte**: white space where a form stands, and the byte of the text
elsewhere. -/
theorem Reading.getElem?_structuralText (h : Reading depth offset text ps) (i : Nat) :
    ((∃ s ∈ spansOf ps, s.Holds (offset + i)) →
      (structuralText ps)[i]? = text[i]?.map blankByte) ∧
    ((∀ s ∈ spansOf ps, ¬ s.Holds (offset + i)) → (structuralText ps)[i]? = text[i]?) := by
  induction h generalizing i with
  | nil => simp [spansOf]
  | @cons depth offset b rest l ps step tail ih =>
    have length := step.piece_end
    have split : b :: rest = (l.piece depth offset b rest).text ++ rest.drop l.more := by
      rw [Lexeme.piece_text, List.cons_append, List.take_append_drop]
    have after := tail.pairwise_spansOf.2
    rw [structuralText_cons, split]
    by_cases here : i < (l.piece depth offset b rest).text.length
    · -- The byte is one of the piece, and later spans begin behind it.
      have notLater (s : FormSpan) (hs : s ∈ spansOf ps) : ¬ s.Holds (offset + i) := by
        rintro ⟨starts, -⟩
        have := after s hs
        omega
      rw [List.getElem?_append_left (by rwa [Piece.length_structural]),
        List.getElem?_append_left here]
      cases hf : l.form with
      | none =>
        rw [spansOf_cons_of_plain ((l.piece_form ..).trans hf)]
        refine ⟨?_, fun _ => ?_⟩
        · rintro ⟨s, hs, holds⟩
          exact absurd holds (notLater s hs)
        · simp only [Piece.structural, Lexeme.piece_form, hf]
      | some form =>
        obtain ⟨-, -, starts⟩ := step.of_form_eq_some hf
        rw [spansOf_cons_of_form ((l.piece_form ..).trans hf)]
        refine ⟨fun _ => ?_, fun outside => ?_⟩
        · simp only [Piece.structural, Lexeme.piece_form, hf, getElem?_blank]
        · refine absurd ⟨?_, ?_⟩ (outside _ List.mem_cons_self)
          · rw [FormSpan.start, starts]
            exact Nat.le_add_right _ _
          · exact Nat.add_lt_add_left here _
    · -- The byte is one of the rest, and the piece's own span ends before it.
      have past := Nat.not_lt.mp here
      rw [List.getElem?_append_right (by rwa [Piece.length_structural]),
        List.getElem?_append_right past, Piece.length_structural]
      have place : offset + 1 + l.more + (i - (l.piece depth offset b rest).text.length) =
          offset + i := by omega
      obtain ⟨inside, outside⟩ := ih (i - (l.piece depth offset b rest).text.length)
      rw [place] at inside outside
      cases hf : l.form with
      | none =>
        rw [spansOf_cons_of_plain ((l.piece_form ..).trans hf)]
        exact ⟨inside, outside⟩
      | some form =>
        rw [spansOf_cons_of_form ((l.piece_form ..).trans hf)]
        refine ⟨?_, fun none => outside fun s hs => none s (List.mem_cons_of_mem _ hs)⟩
        rintro ⟨s, hs, holds⟩
        rcases List.mem_cons.mp hs with rfl | hs
        · exact absurd holds.2 (Nat.not_lt.mpr (Nat.add_le_add_left past offset))
        · exact inside ⟨s, hs, holds⟩

/-- The structural text has line ends where the text has them, and is as long. -/
theorem Reading.map_newline_structuralText (h : Reading depth offset text ps) :
    (structuralText ps).map (· == Ascii.newline) = text.map (· == Ascii.newline) := by
  refine List.ext_getElem? fun i => ?_
  obtain ⟨inside, outside⟩ := h.getElem?_structuralText i
  rw [List.getElem?_map, List.getElem?_map]
  by_cases held : ∃ s ∈ spansOf ps, s.Holds (offset + i)
  · rw [inside held, Option.map_map]
    exact congrArg (Option.map · text[i]?) (funext blankByte_beq_newline)
  · rw [outside fun s hs holds => held ⟨s, hs, holds⟩]

end

/-- A query whose structural text the engine refuses does not compile, and the error reports the
refusal. -/
theorem run_compile_of_refusal {σ : Type} {dialect : Regex.Dialect} {hash : Bytes → UInt64}
    {engine : Engine σ} {grammar : Grammar} {source : Bytes} (cache : RegexCache dialect hash)
    {s s' : σ} {e : Extraction} {refusal : Refusal} (extracted : extract source = .ok e)
    (refused : (engine.compile grammar.language e.structural).run s = (.error refusal, s')) :
    (PatternQuery.compile engine grammar source cache).run s =
      ((.error (refusal.report source), cache), s') := by
  simp only [PatternQuery.compile, extracted, StateT.run_bind, refused]
  rfl

/-- **Extraction changes the forms of a query and nothing else.** The structural text is as long as
the source, with line ends at the same offsets. The forms stand in order and apart from each other,
each from an opening parenthesis to a closing one with its arguments between them. Bytes outside the
forms stay as they are, and bytes inside become spaces, line ends excepted. So a byte has one row
and column in both texts, and what the engine refuses in the structural text is reported where it
stands there. -/
theorem extract_blanks_spans {source : Bytes} {e : Extraction} (h : extract source = .ok e) :
    e.structural.length = source.length ∧
    (∀ i : Nat, e.structural[i]? = some Ascii.newline ↔ source[i]? = some Ascii.newline) ∧
    (formSpans source).map FormSpan.form = e.predicates ∧
    (formSpans source).Pairwise (fun s t => s.start < t.start ∧ s.stop ≤ t.start) ∧
    (∀ s ∈ formSpans source, s.WrittenIn source) ∧
    (∀ i : Nat, (∀ s ∈ formSpans source, ¬ s.Holds i) → e.structural[i]? = source[i]?) ∧
    (∀ s ∈ formSpans source, ∀ i, s.Holds i →
      e.structural[i]? = some Ascii.space ∨ e.structural[i]? = some Ascii.newline) ∧
    (∀ offset, pointAt e.structural offset = pointAt source offset) ∧
    ∀ {σ : Type} {dialect : Regex.Dialect} {hash : Bytes → UInt64} (engine : Engine σ)
      (grammar : Grammar) (cache : RegexCache dialect hash) (s s' : σ) (refusal : Refusal),
      (engine.compile grammar.language e.structural).run s = (.error refusal, s') →
      ∃ err, (PatternQuery.compile engine grammar source cache).run s =
          ((.error err, cache), s') ∧
        err.offset = refusal.offset ∧ err.point = pointAt e.structural refusal.offset := by
  obtain ⟨ps, reading, rfl⟩ := extract_eq_ok_iff.mp h
  have lines := reading.map_newline_structuralText
  have bytes (i : Nat) := reading.getElem?_structuralText i
  have written := reading.writtenIn_of_mem_spansOf List.drop_zero
  simp only [Nat.zero_add] at bytes
  rw [reading.formSpans_eq]
  refine ⟨?_, fun i => ?_, map_form_spansOf ps, reading.pairwise_spansOf.1, written,
    fun i => (bytes i).2, fun s hs i holds => ?_, pointAt_congr lines, ?_⟩
  · simpa only [List.length_map] using congrArg List.length lines
  · have isLine (text : Bytes) : text[i]? = some Ascii.newline ↔
        (text.map (· == Ascii.newline))[i]? = some true := by
      simp [List.getElem?_map]
    rw [isLine, isLine, lines]
  · have inText : i < source.length :=
      Nat.lt_of_lt_of_le holds.2 (written s hs).stop_le_length
    rw [(bytes i).1 ⟨s, hs, holds⟩, List.getElem?_eq_getElem inText, Option.map_some]
    exact (blankByte_eq _).imp (congrArg some) (congrArg some)
  · intro σ dialect hash engine grammar cache s s' refusal refused
    refine ⟨_, run_compile_of_refusal cache h refused, rfl, ?_⟩
    exact (QueryError.point_positioned ..).trans (pointAt_congr lines _).symm

/-- An engine that refuses every query at one byte. -/
def refusingEngine (refusal : Refusal) : Engine Unit :=
  { Engine.absent with compile := fun _ _ => pure (.error refusal) }

/-- A form over three lines, with a comment and a line end in a string, and one more behind it. The
engine refuses the byte behind both. -/
theorem extract_blanks_spans_of_three_lines :
    ∃ source e, source = Bytes.ofText "((x) @a\n (#eq? @a ; c)\n \"y\nz\") (#b?))" ∧
      extract source = .ok e ∧
      e.structural = Bytes.ofText "((x) @a\n              \n   \n         )" ∧
      (formSpans source).map (fun s => (s.start, s.stop)) = [(9, 30), (31, 36)] ∧
      (formSpans source).map FormSpan.form = e.predicates ∧
      (∀ s ∈ formSpans source, s.WrittenIn source) ∧
      ∀ {dialect : Regex.Dialect} {hash : Bytes → UInt64} (grammar : Grammar)
        (cache : RegexCache dialect hash),
        ∃ err, (PatternQuery.compile (refusingEngine ⟨.structural, 36⟩) grammar source cache).run ()
            = ((.error err, cache), ()) ∧ err.offset = 36 ∧ err.point = ⟨3, 9⟩ := by
  have extracted : extract (Bytes.ofText "((x) @a\n (#eq? @a ; c)\n \"y\nz\") (#b?))") =
      .ok ⟨Bytes.ofText "((x) @a\n              \n   \n         )",
        [⟨9, some (Bytes.ofText "eq?"), [.capture (Bytes.ofText "a") 16,
          .literal (Bytes.ofText "y\nz") 24]⟩, ⟨31, some (Bytes.ofText "b?"), []⟩]⟩ := by
    decide +kernel
  obtain ⟨-, -, forms, -, written, -, -, -, reports⟩ := extract_blanks_spans extracted
  refine ⟨_, _, rfl, extracted, rfl, by decide +kernel, forms, written, fun grammar cache => ?_⟩
  obtain ⟨err, run, offset, point⟩ :=
    reports (refusingEngine ⟨.structural, 36⟩) grammar cache () () ⟨.structural, 36⟩ rfl
  exact ⟨err, run, offset, point.trans (by decide +kernel)⟩

end SyntaxForest.Query
