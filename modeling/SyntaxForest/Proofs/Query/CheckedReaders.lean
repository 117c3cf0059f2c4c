import SyntaxForest.Proofs.Query.CheckedPass
import SyntaxForest.Proofs.Query.Places
import SyntaxForest.Proofs.Text.Spelling

/-!
# The checked readers on a text

On a query that is UTF-8, the readers with checks read what the rules allow, up to the offset where
the rules end, and report the defect where a form breaks off. No check fails on the way: the rules
tell how far each turn goes, and what stands behind a name, a string or an argument is a text again.

## Main definitions

* `Checked.Ahead`: what stands in the query from an offset on

## Main results

* `Checked.loop_of_again`, `Checked.loop_of_leave`, `Checked.loop_of_error`: a loop by its turns
* `Checked.readName_eq`, `Checked.loop_stringTurn`: names and strings
* `Checked.loop_argumentTurn_append`: the loop over arguments goes on behind those of the rules
* `Checked.readForm_of_closeParen`, `Checked.readForm_of_breaksOff`: forms
-/

namespace SyntaxForest.Query.Checked

open Utf8

/-! ## Cursors, pieces and loops -/

/-- The text stands in the query from an offset on, up to the end. -/
def Ahead (source : Bytes) (offset : Nat) (text : Bytes) : Prop :=
  ∃ front, source = front ++ text ∧ offset = front.length

section Ahead

variable {source : Bytes} {offset : Nat} {b : UInt8} {run rest : Bytes}

theorem Ahead.getElem?_nil (h : Ahead source offset []) : source[offset]? = none := by
  obtain ⟨front, rfl, rfl⟩ := h
  exact List.getElem?_eq_none (Nat.le_of_eq (congrArg List.length (List.append_nil front)))

theorem Ahead.getElem?_cons (h : Ahead source offset (b :: rest)) : source[offset]? = some b := by
  obtain ⟨front, rfl, rfl⟩ := h
  rw [List.getElem?_append_right (Nat.le_refl _), Nat.sub_self, List.getElem?_cons_zero]

theorem Ahead.behind (h : Ahead source offset (run ++ rest)) :
    Ahead source (offset + run.length) rest := by
  obtain ⟨front, rfl, rfl⟩ := h
  exact ⟨front ++ run, (List.append_assoc front run rest).symm, List.length_append.symm⟩

theorem Ahead.next (h : Ahead source offset (b :: rest)) : Ahead source (offset + 1) rest := by
  have single : Ahead source offset ([b] ++ rest) := h
  exact single.behind

theorem Ahead.end_eq (h : Ahead source offset rest) : offset + rest.length = source.length := by
  obtain ⟨front, rfl, rfl⟩ := h
  exact List.length_append.symm

theorem Ahead.le_length (h : Ahead source offset rest) : offset ≤ source.length := by
  obtain ⟨front, rfl, rfl⟩ := h
  exact (List.prefix_append front rest).length_le

/-- From an ASCII byte on, a text stands. -/
theorem Ahead.valid (h : Ahead source offset (b :: rest)) (valid : Valid source)
    (ascii : b < 0x80) : Valid (b :: rest) := by
  obtain ⟨front, rfl, -⟩ := h
  exact (valid.split fun c hc => Option.some.inj hc ▸ ascii).2

theorem Ahead.slice?_eq (h : Ahead source offset (run ++ rest)) (valid : Valid source)
    (starts : Valid (run ++ rest)) (ends : Valid rest) :
    slice? source offset (offset + run.length) = some run := by
  obtain ⟨front, rfl, rfl⟩ := h
  exact slice?_append valid starts ends

/-- **A piece is cut out** between characters. -/
theorem Ahead.cut_eq (h : Ahead source offset (run ++ rest)) (valid : Valid source)
    (starts : Valid (run ++ rest)) (ends : Valid rest) :
    cut source offset (offset + run.length) = .ok run := by
  rw [cut, h.slice?_eq valid starts ends]

end Ahead

/-- A text is spelled by its bytes. -/
theorem spell_eq {text : Bytes} (valid : Valid text) : spell text = .ok text := by
  simp only [spell, valid.ofText_toText, if_true]

section Loops

variable {σ β : Type} {length offset : Nat} {turn : Nat → σ → Except Halt (Turn σ β)} {gathered : σ}

theorem loop_of_leave {result : β} (h : turn offset gathered = .ok (.leave result)) :
    loop length turn offset gathered = .ok result := by
  rw [loop, h]

theorem loop_of_error {halt : Halt} (h : turn offset gathered = .error halt) :
    loop length turn offset gathered = .error halt := by
  rw [loop, h]

theorem loop_of_again {next : Nat} {gathered' : σ}
    (h : turn offset gathered = .ok (.again next gathered')) (forward : offset < next)
    (inside : next ≤ length) :
    loop length turn offset gathered = loop length turn next gathered' := by
  conv => lhs; rw [loop, h]
  exact dif_pos ⟨forward, inside⟩

theorem ok_bind {α γ : Type} (a : α) (f : α → Except Halt γ) : (Except.ok a >>= f) = f a := rfl

theorem error_bind {α γ : Type} (halt : Halt) (f : α → Except Halt γ) :
    (Except.error halt >>= f) = .error halt := rfl

end Loops

/-! ## Runs, trivia and names -/

section Readers

variable {source : Bytes} {offset : Nat} {run rest : Bytes}

/-- A run is passed byte by byte. -/
theorem skip_eq {kind : UInt8 → Bool} (word : IsRun kind run rest)
    (here : Ahead source offset (run ++ rest)) :
    skip source kind offset = .ok (offset + run.length) := by
  obtain ⟨inside, boundary⟩ := word
  rw [skip]
  induction run generalizing offset with
  | nil =>
    -- The run ends at a byte of another kind or with the text.
    apply loop_of_leave
    cases rest with
    | nil => rw [skipTurn, here.getElem?_nil]; rfl
    | cons b rest => simp [skipTurn, here.getElem?_cons, boundary b rfl]
  | cons b run ih =>
    obtain ⟨first, later⟩ := List.forall_mem_cons.mp inside
    have turn : skipTurn source kind offset () = .ok (.again (offset + 1) ()) := by
      simp only [skipTurn, here.getElem?_cons, first, if_true]
    rw [loop_of_again turn (Nat.lt_succ_self _) here.next.le_length, ih here.next later,
      List.length_cons, Nat.add_assoc, Nat.add_comm 1]

/-- A comment is passed with its semicolon, so a turn that passes one goes forward. -/
theorem skipComment_eq (line : IsRun (· ≠ Ascii.newline) run rest)
    (here : Ahead source offset (Ascii.semicolon :: run ++ rest)) :
    skipComment source offset = .ok (offset + (Ascii.semicolon :: run).length) := by
  have whole : IsRun (· ≠ Ascii.newline) (Ascii.semicolon :: run) rest :=
    ⟨List.forall_mem_cons.mpr ⟨by decide, line.inside⟩, line.boundary⟩
  exact skip_eq whole here

/-- Trivia are passed up to a byte that stops them. -/
theorem skipTrivia_eq (trivia : Trivia run rest) (stops : StopsTrivia rest)
    (here : Ahead source offset (run ++ rest)) :
    skipTrivia source offset = .ok (offset + run.length) := by
  rw [skipTrivia]
  -- Each rule is a turn of the loop, a comment being one turn however long it is.
  induction trivia generalizing offset with
  | @nil rest =>
    refine loop_of_leave ?_
    cases rest with
    | nil => rw [triviaTurn, here.getElem?_nil]; rfl
    | cons b rest =>
      obtain ⟨notBlank, notComment⟩ := stops b rfl
      simp [triviaTurn, here.getElem?_cons, notBlank, notComment]
  | @blank b run rest isBlank tail ih =>
    have notComment : b ≠ Ascii.semicolon := by
      rintro rfl
      exact absurd isBlank (by decide)
    have turn : triviaTurn source offset () = .ok (.again (offset + 1) ()) := by
      simp only [triviaTurn, here.getElem?_cons, notComment, if_false, isBlank, if_true]
    rw [loop_of_again turn (Nat.lt_succ_self _) here.next.le_length, ih stops here.next,
      List.length_cons, Nat.add_assoc, Nat.add_comm 1]
  | @comment body run rest line tail ih =>
    rw [List.cons_append, List.append_assoc, ← List.cons_append] at here
    have turn : triviaTurn source offset () =
        .ok (.again (offset + (Ascii.semicolon :: body).length) ()) := by
      rw [triviaTurn, here.getElem?_cons]
      simp only [if_true, skipComment_eq line here]
      rfl
    rw [loop_of_again turn (by simp) here.behind.le_length, ih stops here.behind,
      ← List.cons_append, List.length_append, Nat.add_assoc]

/-- A name is cut out of the query where its run ends. -/
theorem readName_eq (valid : Valid source) (word : IsRun isIdentifierByte run rest)
    (here : Ahead source offset (run ++ rest)) (starts : Valid (run ++ rest)) :
    readName source offset = .ok (run, offset + run.length) := by
  -- Only an ASCII byte ends a run of identifier bytes, so the name ends between characters.
  have ends := word.valid_of_isIdentifierByte starts
  rw [readName, skip_eq word here, ok_bind, here.cut_eq valid starts ends]
  rfl

/-! ## Strings -/

/-- **The loop over a string** gathers the bytes of its value. The cursor may stand inside a
character on the way, as nothing is cut out and the bytes are spelled at the end. -/
theorem loop_stringTurn {start : Nat} {text : Bytes} (here : Ahead source offset text)
    (value : Bytes) :
    loop source.length (stringTurn source start) offset value =
      match stringBody text with
      | none => .error (.defect ⟨.malformed, start⟩)
      | some (tail, n) => .ok (value ++ tail, offset + n) := by
  induction text using stringBody.induct generalizing offset value with
  | case1 =>
    rw [stringBody_nil]
    exact loop_of_error (by rw [stringTurn, here.getElem?_nil])
  | case2 rest =>
    rw [stringBody_quote]
    refine loop_of_leave ?_
    simp only [stringTurn, here.getElem?_cons, if_true, List.append_nil]
  | case3 =>
    rw [stringBody_backslash_nil]
    have notQuote : Ascii.backslash ≠ Ascii.quote := by decide
    refine loop_of_error ?_
    simp only [stringTurn, here.getElem?_cons, here.next.getElem?_nil, notQuote, if_false, if_true]
  | case4 e rest _ ih =>
    have notQuote : Ascii.backslash ≠ Ascii.quote := by decide
    have turn : stringTurn source start offset value =
        .ok (.again (offset + 2) (value ++ [unescape e])) := by
      simp only [stringTurn, here.getElem?_cons, here.next.getElem?_cons, notQuote, if_false,
        if_true]
    rw [loop_of_again turn (Nat.lt_add_of_pos_right Nat.two_pos) here.next.next.le_length,
      ih here.next.next, stringBody_backslash_cons]
    cases stringBody rest with
    | none => rfl
    | some body =>
      simp only [Option.map_some, List.append_assoc, List.singleton_append, Except.ok.injEq,
        Prod.mk.injEq, true_and]
      omega
  | case5 b rest notQuote notEscape ih =>
    have turn : stringTurn source start offset value =
        .ok (.again (offset + 1) (value ++ [b])) := by
      simp only [stringTurn, here.getElem?_cons, notQuote, notEscape, if_false]
    rw [loop_of_again turn (Nat.lt_succ_self _) here.next.le_length, ih here.next,
      stringBody_cons notQuote notEscape]
    cases stringBody rest with
    | none => rfl
    | some body =>
      simp only [Option.map_some, List.append_assoc, List.singleton_append, Except.ok.injEq,
        Prod.mk.injEq, true_and]
      omega

theorem readString_of_stringText {body value : Bytes} (string : StringText body value)
    (here : Ahead source offset (Ascii.quote :: body ++ rest))
    (starts : Valid (Ascii.quote :: body ++ rest)) :
    readString source offset = .ok (value, offset + (Ascii.quote :: body).length) := by
  -- The closing quote is an ASCII byte, so what stands in front of it is a text.
  have stands : ArgumentText offset (Ascii.quote :: body) (.literal value offset) rest :=
    .string string
  have ends := stands.valid starts
  have whole : Valid body :=
    Valid.of_append ((valid_cons_iff (by decide)).mp starts) ends
  rw [List.cons_append] at here
  rw [readString, loop_stringTurn here.next, string.stringBody_append]
  simp only [ok_bind, spell_eq (string.valid_value whole), List.nil_append, List.length_cons,
    Nat.add_assoc, Nat.add_comm 1]
  rfl

theorem readString_of_not_closes {text : Bytes} (never : ¬ Closes text)
    (here : Ahead source offset (Ascii.quote :: text)) :
    readString source offset = .error (.defect ⟨.malformed, offset⟩) := by
  rw [readString, loop_stringTurn here.next, stringBody_eq_none_iff.mpr never]
  rfl

/-! ## Arguments -/

section Arguments

variable {start : Nat} {word text : Bytes} {a : Argument} {arguments : List Argument} {d : Defect}

/-- An argument is read by the rules. -/
theorem readArgument_of_argumentText {b : UInt8} (valid : Valid source)
    (h : ArgumentText offset (b :: word) a rest) (here : Ahead source offset (b :: word ++ rest))
    (starts : Valid (b :: word ++ rest)) :
    readArgument source offset b = .ok (a, offset + (b :: word).length) := by
  -- The text is an index of the rules, so it must be a variable when they are told apart.
  generalize text : b :: word = whole at h
  cases h with
  | @capture name _ ne_nil run =>
    cases text
    have named := readName_eq valid run here.next ((valid_cons_iff (by decide)).mp starts)
    simp only [readArgument, if_true, named, ok_bind, ne_nil, if_false, List.length_cons,
      Nat.add_assoc, Nat.add_comm 1]
    rfl
  | @string body value _ string =>
    cases text
    have notAt : Ascii.quote ≠ Ascii.atSign := by decide
    simp only [readArgument, notAt, if_false, if_true, ok_bind,
      readString_of_stringText string here starts]
    rfl
  | word ne_nil run =>
    subst text
    have isWord := run.inside b List.mem_cons_self
    obtain ⟨-, notSign⟩ := not_isBlank_of_isIdentifierByte isWord
    simp only [List.mem_cons, List.not_mem_nil, or_false, not_or] at notSign
    simp only [readArgument, notSign, if_false, isWord, if_true, readName_eq valid run here starts,
      ok_bind]
    rfl

/-- Where a form breaks off at a byte, reading an argument reports its defect. -/
theorem readArgument_of_breaksOff {b : UInt8} (valid : Valid source)
    (h : BreaksOff start offset (b :: text) d) (here : Ahead source offset (b :: text))
    (starts : Valid (b :: text)) :
    readArgument source offset b = .error (.defect d) := by
  cases h with
  | nameless none =>
    -- The empty name is cut out all the same, behind the at sign.
    have noName : IsRun isIdentifierByte [] text := ⟨by simp, none⟩
    have named := readName_eq valid noName here.next ((valid_cons_iff (by decide)).mp starts)
    simp only [readArgument, if_true, named, ok_bind]
  | unclosed never =>
    have notAt : Ascii.quote ≠ Ascii.atSign := by decide
    simp only [readArgument, notAt, if_false, if_true, readString_of_not_closes never here,
      error_bind]
  | stray notBlank notWord notSign =>
    simp only [List.mem_cons, List.not_mem_nil, or_false, not_or] at notSign
    simp [readArgument, notSign, notWord]

/-- **The loop over arguments** goes on behind those that the rules allow. -/
theorem loop_argumentTurn_append (valid : Valid source)
    (h : ArgumentsText offset text arguments rest) (here : Ahead source offset (text ++ rest))
    (starts : Valid (text ++ rest)) (gathered : List Argument) :
    loop source.length (argumentTurn source start) offset gathered =
      loop source.length (argumentTurn source start) (offset + text.length)
        (gathered ++ arguments) := by
  -- What stands behind the arguments so far stays a text, so the next piece can be cut out.
  induction h generalizing gathered with
  | nil => rw [List.length_nil, Nat.add_zero, List.append_nil]
  | @cons offset run word more rest a arguments trivia first tail ih =>
    obtain ⟨b, body, rfl, -, notClosing, stops⟩ := first.readArgument_eq
    simp only [List.append_assoc] at here starts
    have behindTrivia := trivia.valid starts
    have skipped := skipTrivia_eq trivia stops here
    have read := readArgument_of_argumentText valid first here.behind behindTrivia
    have turn : argumentTurn source start offset gathered =
        .ok (.again (offset + run.length + (b :: body).length) (gathered ++ [a])) := by
      rw [argumentTurn, skipped, ok_bind, Ahead.getElem?_cons here.behind]
      simp only [notClosing, if_false, read, ok_bind]
      rfl
    have forward : offset < offset + run.length + (b :: body).length := by
      rw [List.length_cons]
      omega
    rw [loop_of_again turn forward here.behind.behind.le_length,
      ih here.behind.behind (first.valid behindTrivia), List.append_assoc, List.singleton_append,
      List.length_append, List.length_append, Nat.add_assoc, Nat.add_assoc]

theorem loop_argumentTurn_of_closeParen (gathered : List Argument)
    (trivia : Trivia run (Ascii.closeParen :: rest))
    (here : Ahead source offset (run ++ Ascii.closeParen :: rest)) :
    loop source.length (argumentTurn source start) offset gathered =
      .ok (gathered, offset + run.length + 1) := by
  have skipped := skipTrivia_eq trivia (by rintro b ⟨⟩; decide) here
  apply loop_of_leave
  rw [argumentTurn, skipped, ok_bind, here.behind.getElem?_cons]
  rfl

theorem loop_argumentTurn_of_breaksOff (gathered : List Argument) (valid : Valid source)
    (trivia : Trivia run rest) (breaks : BreaksOff start (offset + run.length) rest d)
    (here : Ahead source offset (run ++ rest)) (starts : Valid (run ++ rest)) :
    loop source.length (argumentTurn source start) offset gathered = .error (.defect d) := by
  obtain ⟨stops, notClosing⟩ := breaks.stopsTrivia
  -- The last turn finds the end of the text, or a byte that begins no argument.
  apply loop_of_error
  rw [argumentTurn, skipTrivia_eq trivia stops here, ok_bind]
  cases rest with
  | nil =>
    rw [here.behind.getElem?_nil]
    cases breaks
    rfl
  | cons b rest =>
    have inside : b ≠ Ascii.closeParen := fun closing => notClosing (congrArg some closing)
    rw [here.behind.getElem?_cons]
    simp only [inside, if_false, error_bind,
      readArgument_of_breaksOff valid breaks here.behind (trivia.valid starts)]

end Arguments

/-! ## Forms -/

section Forms

variable {start : Nat} {text : Bytes} {raw : RawPredicate} {d : Defect}

/-- The form reader reads on from the arguments. -/
theorem readForm_append {blanks operator tail : Bytes} (valid : Valid source)
    (isBlank : ∀ b ∈ blanks, Ascii.isBlank b = true) (word : IsRun isIdentifierByte operator tail)
    (here : Ahead source (start + 1) (blanks ++ Ascii.hash :: (operator ++ tail)))
    (starts : Valid (blanks ++ Ascii.hash :: (operator ++ tail))) :
    Ahead source (start + 2 + blanks.length + operator.length) tail ∧ Valid tail ∧
      readForm source start = do
        let (arguments, stop) ← loop source.length (argumentTurn source start)
          (start + 2 + blanks.length + operator.length) []
        return (⟨start, if operator = [] then none else some operator, arguments⟩, stop) := by
  -- The reader skips trivia in front of the hash sign, but only blanks can stand there.
  have trivia : Trivia blanks (Ascii.hash :: (operator ++ tail)) := .of_blanks isBlank
  have opening := skipTrivia_eq trivia (by rintro b ⟨⟩; decide) here
  have behindHash := (valid_cons_iff (by decide)).mp (trivia.valid starts)
  have named := readName_eq valid word here.behind.next behindHash
  have place : start + 1 + blanks.length + 1 + operator.length =
      start + 2 + blanks.length + operator.length := by
    omega
  refine ⟨place ▸ here.behind.next.behind, word.valid_of_isIdentifierByte behindHash, ?_⟩
  rw [readForm, opening, ok_bind, named, ok_bind, place]

/-- A form that goes on to its closing parenthesis is read. -/
theorem readForm_of_closeParen (valid : Valid source)
    (h : FormFront start text raw (Ascii.closeParen :: rest))
    (here : Ahead source (start + 1) (text ++ Ascii.closeParen :: rest))
    (starts : Valid (text ++ Ascii.closeParen :: rest)) :
    readForm source start = .ok (raw, start + 1 + (text.length + 1)) := by
  obtain @⟨blanks, operator, body, run, _, arguments, isBlank, word, tail, trivia⟩ := h
  have place := front_end start blanks operator body run
  simp only [List.append_assoc, List.cons_append] at here starts
  obtain ⟨behind, validBehind, read⟩ := readForm_append valid isBlank word here starts
  rw [read, loop_argumentTurn_append valid tail behind validBehind,
    loop_argumentTurn_of_closeParen _ trivia behind.behind, ok_bind, ← Nat.add_assoc, place]
  rfl

/-- A form that breaks off is reported with its defect. -/
theorem readForm_of_breaksOff (valid : Valid source) (h : FormFront start text raw rest)
    (breaks : BreaksOff start (start + 1 + text.length) rest d)
    (here : Ahead source (start + 1) (text ++ rest)) (starts : Valid (text ++ rest)) :
    readForm source start = .error (.defect d) := by
  obtain @⟨blanks, operator, body, run, _, arguments, isBlank, word, tail, trivia⟩ := h
  rw [front_end] at breaks
  simp only [List.append_assoc, List.cons_append] at here starts
  obtain ⟨behind, validBehind, read⟩ := readForm_append valid isBlank word here starts
  have behindArguments : Valid (run ++ rest) := tail.valid validBehind
  rw [read, loop_argumentTurn_append valid tail behind validBehind,
    loop_argumentTurn_of_breaksOff _ valid trivia breaks behind.behind behindArguments, error_bind]

end Forms

end Readers

end SyntaxForest.Query.Checked
