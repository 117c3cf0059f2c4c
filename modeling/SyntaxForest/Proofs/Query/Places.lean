import SyntaxForest.Proofs.Query.Elements
import SyntaxForest.Proofs.Text.Boundaries

/-!
# Places of forms, arguments and defects

A form is placed at its parenthesis and an argument at its quote or at the first byte of its name or
word, which runs as far as it can. A defect is placed at the ASCII byte where reading stops. So in a
query that is UTF-8, all of these are places where a character begins.

## Main definitions

* `Argument.StandsIn`, `RawPredicate.OpensIn`: an argument and a form stand in a text at their
  offsets

## Main results

* `StringText.valid_value`: a string of a text has a text for its value
* `opensIn_of_mem`, `standsIn_of_mem`: the forms of a query and their arguments stand in the query
* `Argument.StandsIn.isCharStart`, `FirstDefect.isCharStart`: characters begin at arguments and at
  defects
-/

namespace SyntaxForest.Query

open Utf8

/-- The argument stands in the text at its offset. If the text is UTF-8, it is cut there between two
characters. -/
def Argument.StandsIn (source : Bytes) (a : Argument) : Prop :=
  ∃ before word behind, source = before ++ (word ++ behind) ∧
    ArgumentText before.length word a behind ∧ (Valid source → Valid (word ++ behind))

/-- The form opens in the text at its offset. -/
def RawPredicate.OpensIn (source : Bytes) (raw : RawPredicate) : Prop :=
  ∃ before behind, source = before ++ Ascii.openParen :: behind ∧ raw.offset = before.length

/-! ## Cuts between characters -/

theorem lt_of_isIdentifierByte_eq_false {b : UInt8} (h : isIdentifierByte b = false) :
    b < 0x80 := by
  simp only [isIdentifierByte, Bool.or_eq_false_iff, decide_eq_false_iff_not] at h
  exact UInt8.not_le.mp h.2

theorem lt_of_isBlank {b : UInt8} (h : Ascii.isBlank b = true) : b < 0x80 :=
  lt_of_isIdentifierByte_eq_false (isIdentifierByte_of_isBlank h)

/-! ## Values of strings -/

theorem unescape_eq_or_lt (e : UInt8) : unescape e = e ∨ (e < 0x80 ∧ unescape e < 0x80) := by
  unfold unescape
  grind

/-- The value of a string takes the machine where the string takes it: a backslash stands between
two characters, and what an escape stands for is read as the byte behind the backslash is. -/
theorem StringText.run_value {body value : Bytes} (string : StringText body value) {q : State}
    (h : run q body = some .start) : run q value = some .start := by
  induction string generalizing q with
  | close =>
    obtain ⟨q', next, ends⟩ := Option.bind_eq_some_iff.mp h
    exact congrArg some (start_of_step_eq (by decide) next).1
  | @escape e text value tail ih =>
    obtain ⟨q', next, behind⟩ := Option.bind_eq_some_iff.mp h
    obtain ⟨rfl, rfl⟩ := start_of_step_eq (by decide) next
    obtain ⟨q', next, behind⟩ := Option.bind_eq_some_iff.mp behind
    refine Option.bind_eq_some_iff.mpr ⟨q', ?_, ih behind⟩
    rcases unescape_eq_or_lt e with same | ⟨ascii, ascii'⟩
    · rw [same, next]
    · obtain ⟨-, rfl⟩ := start_of_step_eq ascii next
      exact first_of_lt ascii'
  | @plain b text value notQuote notEscape tail ih =>
    obtain ⟨q', next, behind⟩ := Option.bind_eq_some_iff.mp h
    exact Option.bind_eq_some_iff.mpr ⟨q', next, ih behind⟩

/-- **The value of a string in a text is a text.** -/
theorem StringText.valid_value {body value : Bytes} (string : StringText body value)
    (valid : Valid body) : Valid value :=
  string.run_value valid

/-! ## What stands behind -/

section Cuts

variable {run rest : Bytes}

/-- What stands behind a whole word is a text. -/
theorem IsRun.valid_of_isIdentifierByte (h : IsRun isIdentifierByte run rest)
    (valid : Valid (run ++ rest)) : Valid rest :=
  (valid.split fun b hb => lt_of_isIdentifierByte_eq_false (h.boundary b hb)).2

theorem Trivia.valid (h : Trivia run rest) (valid : Valid (run ++ rest)) : Valid rest := by
  induction h with
  | nil => exact valid
  | blank isBlank tail ih => exact ih ((valid_cons_iff (lt_of_isBlank isBlank)).mp valid)
  | @comment body run rest line tail ih =>
    rw [List.cons_append, List.append_assoc, valid_cons_iff (by decide)] at valid
    refine ih (valid.split fun b hb => ?_).2
    -- The comment ends before a line end.
    obtain rfl : b = Ascii.newline := by simpa using line.boundary b hb
    decide

theorem StringText.exists_quote {body value : Bytes} (h : StringText body value) :
    ∃ inner, body = inner ++ [Ascii.quote] := by
  induction h with
  | close => exact ⟨[], rfl⟩
  | @escape e _ _ tail ih =>
    obtain ⟨inner, rfl⟩ := ih
    exact ⟨Ascii.backslash :: e :: inner, rfl⟩
  | @plain b _ _ _ _ tail ih =>
    obtain ⟨inner, rfl⟩ := ih
    exact ⟨b :: inner, rfl⟩

theorem ArgumentText.valid {offset : Nat} {word : Bytes} {a : Argument}
    (h : ArgumentText offset word a rest) (valid : Valid (word ++ rest)) : Valid rest := by
  cases h with
  | capture ne_nil word =>
    rw [List.cons_append, valid_cons_iff (by decide)] at valid
    exact word.valid_of_isIdentifierByte valid
  | string string =>
    obtain ⟨inner, rfl⟩ := string.exists_quote
    rw [List.cons_append, valid_cons_iff (by decide), List.append_assoc] at valid
    exact valid.behind (by decide)
  | word ne_nil word => exact word.valid_of_isIdentifierByte valid

/-- What stands behind several arguments is a text. -/
theorem ArgumentsText.valid {offset : Nat} {text : Bytes} {arguments : List Argument}
    (h : ArgumentsText offset text arguments rest) (valid : Valid (text ++ rest)) : Valid rest := by
  induction h with
  | nil => exact valid
  | cons trivia first tail ih =>
    simp only [List.append_assoc] at valid
    exact ih (first.valid (trivia.valid valid))

end Cuts

/-! ## Arguments in their form -/

section Forms

variable {offset : Nat} {text rest : Bytes} {a : Argument}

/-- Each of several arguments stands in their text. -/
theorem ArgumentsText.exists_argumentText {arguments : List Argument}
    (h : ArgumentsText offset text arguments rest) (ha : a ∈ arguments) :
    ∃ before word behind, text ++ rest = before ++ (word ++ behind) ∧
      ArgumentText (offset + before.length) word a behind ∧
      (Valid (text ++ rest) → Valid (word ++ behind)) := by
  induction h with
  | nil => cases ha
  | @cons offset run word more rest _ arguments trivia first tail ih =>
    have cut (valid : Valid (run ++ (word ++ more) ++ rest)) :
        Valid (word ++ (more ++ rest)) :=
      trivia.valid (by simpa only [List.append_assoc] using valid)
    rcases List.mem_cons.mp ha with rfl | ha
    · exact ⟨run, word, more ++ rest, by simp only [List.append_assoc], first, cut⟩
    · obtain ⟨before, word', behind, split, stands, valid'⟩ := ih ha
      refine ⟨run ++ (word ++ before), word', behind, ?_, ?_, fun valid =>
        valid' (first.valid (cut valid))⟩
      · simp only [List.append_assoc, split]
      · simpa only [List.length_append, Nat.add_assoc] using stands

/-- Each argument of a form stands in the text of the form. -/
theorem FormFront.exists_argumentText {raw : RawPredicate} (h : FormFront offset text raw rest)
    (ha : a ∈ raw.arguments) :
    ∃ before word behind, text ++ rest = before ++ (word ++ behind) ∧
      ArgumentText (offset + 1 + before.length) word a behind ∧
      (Valid (text ++ rest) → Valid (word ++ behind)) := by
  obtain @⟨blanks, name, body, run, _, _, isBlank, operator, arguments, -⟩ := h
  obtain ⟨before, word, behind, split, stands, valid'⟩ := arguments.exists_argumentText ha
  refine ⟨blanks ++ Ascii.hash :: (name ++ before), word, behind, ?_, ?_, fun valid => valid' ?_⟩
  · simp only [List.append_assoc, List.cons_append, split]
  · have width : offset + 1 + (blanks ++ Ascii.hash :: (name ++ before)).length =
        offset + 2 + blanks.length + name.length + before.length := by
      simp only [List.length_append, List.length_cons]
      omega
    rwa [width]
  · -- The form is cut behind the hash sign and then behind the operator.
    simp only [List.append_assoc, List.cons_append] at valid
    have behindHash := (valid_cons_iff (by decide)).mp ((Trivia.of_blanks isBlank).valid valid)
    exact operator.valid_of_isIdentifierByte behindHash

theorem FormFront.offset_eq {raw : RawPredicate} (h : FormFront offset text raw rest) :
    raw.offset = offset := by
  cases h
  rfl

end Forms

/-! ## Forms in their query -/

/-- Each form of a text stands in it. -/
theorem Reads.exists_formFront {rest : Bytes} {depth offset : Nat} {es : List Element}
    {raw : RawPredicate} (h : Reads rest depth offset es)
    (hraw : raw ∈ (extractionOf es).predicates) :
    ∃ before front behind, textOf es ++ rest =
        before ++ Ascii.openParen :: (front ++ Ascii.closeParen :: behind) ∧
      FormFront (offset + before.length) front raw (Ascii.closeParen :: behind) := by
  induction h with
  | nil => cases hraw
  | @cons depth offset e es first tail ih =>
    rw [extractionOf_cons] at hraw
    -- Either the form stands in front, or it stands behind the element in front.
    have later (hraw : raw ∈ (extractionOf es).predicates) :
        ∃ before front behind, textOf (e :: es) ++ rest =
            before ++ Ascii.openParen :: (front ++ Ascii.closeParen :: behind) ∧
          FormFront (offset + before.length) front raw (Ascii.closeParen :: behind) := by
      obtain ⟨before, front, behind, split, stands⟩ := ih hraw
      refine ⟨e.text ++ before, front, behind, ?_, ?_⟩
      · simp only [textOf_cons, List.append_assoc, split]
      · simpa only [List.length_append, Nat.add_assoc] using stands
    cases first with
    | @form front _ raw' inside form =>
      rcases List.mem_cons.mp hraw with rfl | hraw
      · exact ⟨[], front, _, by simp [Element.text], form⟩
      · exact later hraw
    | comment => exact later hraw
    | string => exact later hraw
    | byte => exact later hraw

section Queries

variable {source : Bytes} {e : Extraction} {raw : RawPredicate} {a : Argument}

theorem exists_formFront_of_mem (extracted : extract source = .ok e) (hraw : raw ∈ e.predicates) :
    ∃ before front behind, source =
        before ++ Ascii.openParen :: (front ++ Ascii.closeParen :: behind) ∧
      FormFront before.length front raw (Ascii.closeParen :: behind) := by
  obtain ⟨es, rfl, reads, rfl⟩ := extract_eq_ok_iff_reads.mp extracted
  simpa using reads.exists_formFront hraw

/-- The forms of a query open in it. -/
theorem opensIn_of_mem (extracted : extract source = .ok e) (hraw : raw ∈ e.predicates) :
    raw.OpensIn source := by
  obtain ⟨before, front, behind, split, form⟩ := exists_formFront_of_mem extracted hraw
  exact ⟨before, _, split, form.offset_eq⟩

/-- **The arguments of a query's forms stand in it.** -/
theorem standsIn_of_mem (extracted : extract source = .ok e) (hraw : raw ∈ e.predicates)
    (ha : a ∈ raw.arguments) : a.StandsIn source := by
  obtain ⟨before, front, behind, rfl, form⟩ := exists_formFront_of_mem extracted hraw
  obtain ⟨before', word, behind', split, stands, valid'⟩ := form.exists_argumentText ha
  refine ⟨before ++ Ascii.openParen :: before', word, behind', ?_, ?_, fun valid => valid' ?_⟩
  · rw [split, List.append_assoc, List.cons_append]
  · have width : (before ++ Ascii.openParen :: before').length =
        before.length + 1 + before'.length := by
      simp only [List.length_append, List.length_cons]
      omega
    rwa [width]
  · exact valid.behind (by decide)

end Queries

/-! ## Where characters begin -/

section Characters

variable {source : Bytes}

theorem RawPredicate.OpensIn.offset_lt {raw : RawPredicate} (h : raw.OpensIn source) :
    raw.offset < source.length := by
  obtain ⟨before, behind, rfl, offset⟩ := h
  simp only [offset, List.length_append, List.length_cons]
  omega

theorem Argument.StandsIn.offset_lt {a : Argument} (h : a.StandsIn source) :
    a.offset < source.length := by
  obtain ⟨before, word, behind, rfl, stands, -⟩ := h
  cases stands with
  | capture ne_nil =>
    have := List.length_pos_iff.mpr ne_nil
    simp only [offset, List.length_append, List.length_cons]
    omega
  | string =>
    simp only [offset, List.length_append, List.length_cons]
    omega
  | word ne_nil =>
    have := List.length_pos_iff.mpr ne_nil
    simp only [offset, List.length_append]
    omega

/-- A character begins at every ASCII byte. -/
theorem isCharStart_of_ascii (valid : Valid source) {before behind : Bytes} {b : UInt8}
    (split : source = before ++ b :: behind) (ascii : b < 0x80) :
    IsCharStart source before.length := by
  subst split
  refine isCharStart_length valid (List.cons_ne_nil _ _) (valid.split fun c hc => ?_).2
  exact Option.some.inj hc ▸ ascii

theorem RawPredicate.OpensIn.isCharStart {raw : RawPredicate} (h : raw.OpensIn source)
    (valid : Valid source) : IsCharStart source raw.offset := by
  obtain ⟨before, behind, split, offset⟩ := h
  rw [offset]
  exact isCharStart_of_ascii valid split (by decide)

/-- A character begins where an argument stands. -/
theorem Argument.StandsIn.isCharStart {a : Argument} (h : a.StandsIn source)
    (valid : Valid source) : IsCharStart source a.offset := by
  obtain ⟨before, word, behind, rfl, stands, cut⟩ := h
  have cut := cut valid
  cases stands with
  | @capture name _ ne_nil word =>
    -- The name begins behind the at sign, which is a character of its own.
    rw [List.cons_append, valid_cons_iff (by decide)] at cut
    have split : before ++ (Ascii.atSign :: name ++ behind) =
        (before ++ [Ascii.atSign]) ++ (name ++ behind) := by
      simp
    have starts := isCharStart_length (split ▸ valid)
      (List.append_ne_nil_of_left_ne_nil ne_nil _) cut
    rwa [← split, List.length_append] at starts
  | string => exact isCharStart_length valid (List.cons_ne_nil _ _) cut
  | word ne_nil word =>
    exact isCharStart_length valid (List.append_ne_nil_of_left_ne_nil ne_nil _) cut

/-- A defect lies at an ASCII byte. -/
theorem FirstDefect.exists_ascii {d : Defect} (h : FirstDefect source d) :
    ∃ before b behind, source = before ++ b :: behind ∧ d.offset = before.length ∧ b < 0x80 := by
  obtain ⟨es, rest, rfl, -, stuck⟩ := h
  cases stuck with
  | unclosed never => exact ⟨textOf es, _, _, rfl, rfl, by decide⟩
  | outside outer opens => exact ⟨textOf es, _, _, rfl, rfl, by decide⟩
  | @broken front rest raw _ inside form breaks =>
    have behindFront (b : UInt8) (behind : Bytes) (same : rest = b :: behind) :
        textOf es ++ Ascii.openParen :: (front ++ rest) =
          (textOf es ++ Ascii.openParen :: front) ++ b :: behind ∧
        (textOf es).length + 1 + front.length = (textOf es ++ Ascii.openParen :: front).length := by
      subst same
      simp only [List.append_assoc, List.cons_append, List.length_append, List.length_cons,
        true_and]
      omega
    cases breaks with
    | ended => exact ⟨textOf es, _, _, rfl, rfl, by decide⟩
    | nameless none =>
      obtain ⟨split, width⟩ := behindFront _ _ rfl
      exact ⟨_, _, _, split, width, by decide⟩
    | unclosed never =>
      obtain ⟨split, width⟩ := behindFront _ _ rfl
      exact ⟨_, _, _, split, width, by decide⟩
    | stray notBlank notWord notSign =>
      obtain ⟨split, width⟩ := behindFront _ _ rfl
      exact ⟨_, _, _, split, width, lt_of_isIdentifierByte_eq_false notWord⟩

theorem FirstDefect.offset_lt {d : Defect} (h : FirstDefect source d) :
    d.offset < source.length := by
  obtain ⟨before, b, behind, rfl, offset, -⟩ := h.exists_ascii
  simp only [offset, List.length_append, List.length_cons]
  omega

/-- A character begins where a defect lies. -/
theorem FirstDefect.isCharStart {d : Defect} (h : FirstDefect source d) (valid : Valid source) :
    IsCharStart source d.offset := by
  obtain ⟨before, b, behind, split, offset, ascii⟩ := h.exists_ascii
  rw [offset]
  exact isCharStart_of_ascii valid split ascii

end Characters

end SyntaxForest.Query
