import SyntaxForest.Proofs.Query.Blanking
import SyntaxForest.Proofs.Query.Grammar
import SyntaxForest.Proofs.Query.Stripping

/-!
# Queries that follow each other

The pass over a query looks ahead without bound: for a hash sign behind white space, for the end of
a comment or a name, for the quote that closes a string and the parenthesis that closes a form. None
of this crosses the end of a text that ends with a line and leaves no bracket open. A comment and a
name end at that line at the latest; strings and forms are closed; and a parenthesis with nothing
but white space behind it would still be open. So the pass over two such texts in a row is the pass
over the first, and then the pass over the second with every offset further on.

## Main definitions

* `Argument.shift`, `RawPredicate.shift`, `Defect.shift`, `Extraction.shift`: the same, further on
* `openBehind`, `depthAtEnd`: the number of brackets that the pass finds open behind a text

## Main results

* `scan_shift`: the pass depends on the offset that it starts from only through the offsets it gives
* `Step.append`: steps do not look behind the end of such a text
* `Reading.scan_append`: the pass over two texts in a row
* `extract_append`: queries that follow each other
-/

namespace SyntaxForest.Query

/-! ## Offsets -/

/-- The same argument, `n` bytes further on. -/
def Argument.shift (n : Nat) : Argument → Argument
  | .capture name offset => .capture name (offset + n)
  | .literal value offset => .literal value (offset + n)

/-- The same form, `n` bytes further on. -/
def RawPredicate.shift (n : Nat) (raw : RawPredicate) : RawPredicate :=
  ⟨raw.offset + n, raw.operator, raw.arguments.map (·.shift n)⟩

/-- The same defect, `n` bytes further on. -/
def Defect.shift (n : Nat) (d : Defect) : Defect := ⟨d.kind, d.offset + n⟩

def Lexeme.shift (n : Nat) (l : Lexeme) : Lexeme := { l with form := l.form.map (·.shift n) }

/-- The same structural text, with all forms `n` bytes further on. -/
def Extraction.shift (n : Nat) (e : Extraction) : Extraction :=
  ⟨e.structural, e.predicates.map (·.shift n)⟩

/-- What a reader finds `n` bytes further on. -/
def further {α : Type} (n : Nat) (move : α → α) : Except Defect α → Except Defect α
  | .error d => .error (d.shift n)
  | .ok a => .ok (move a)

section Shifting

variable (n start offset : Nat)

theorem readArgument_shift (b : UInt8) (rest : Bytes) :
    readArgument (offset + n) b rest =
      further n (fun read => (read.1.shift n, read.2)) (readArgument offset b rest) := by
  unfold readArgument
  split_ifs
  · cases rest.takeWhile isIdentifierByte with
    | nil => rfl
    | cons c name => simp only [further, Argument.shift, Nat.add_right_comm]
  · cases stringBody rest <;> rfl
  · rfl
  · rfl

theorem readArguments_of_end {start offset : Nat} {text : Bytes}
    (h : text.drop (triviaLength false text) = []) :
    readArguments start offset text = .error ⟨.malformed, start⟩ := by
  rw [readArguments]
  split
  next => rfl
  next b rest some => cases h.symm.trans some

/-- A byte at which no argument can be read is reported. -/
theorem readArguments_of_error {start offset : Nat} {text rest : Bytes} {b : UInt8} {d : Defect}
    (h : text.drop (triviaLength false text) = b :: rest) (inside : b ≠ Ascii.closeParen)
    (stop : readArgument (offset + triviaLength false text) b rest = .error d) :
    readArguments start offset text = .error d := by
  rw [readArguments]
  split
  next none => cases h.symm.trans none
  next b' rest' some =>
    obtain ⟨rfl, rfl⟩ := List.cons.inj (some.symm.trans h)
    simp only [inside, if_false, stop]

theorem readArguments_shift (text : Bytes) :
    readArguments (start + n) (offset + n) text =
      further n (fun read => (read.1.map (·.shift n), read.2))
        (readArguments start offset text) := by
  -- An argument is not empty, so the induction is on the length of the text.
  induction hn : text.length using Nat.strongRecOn generalizing offset text with
  | ind m ih =>
    subst hn
    cases found : text.drop (triviaLength false text) with
    | nil => rw [readArguments_of_end found, readArguments_of_end found]; rfl
    | cons b rest =>
      by_cases closing : b = Ascii.closeParen
      · subst closing
        rw [readArguments_of_closeParen found, readArguments_of_closeParen found]
        rfl
      have further_on := readArgument_shift n (offset + triviaLength false text) b rest
      rw [Nat.add_right_comm] at further_on
      cases first : readArgument (offset + triviaLength false text) b rest with
      | error d =>
        rw [first] at further_on
        rw [readArguments_of_error found closing first,
          readArguments_of_error found closing further_on]
        rfl
      | ok read =>
        obtain ⟨a, more⟩ := read
        rw [first] at further_on
        have shorter : (rest.drop more).length < text.length := by
          have := congrArg List.length found
          simp only [List.length_drop, List.length_cons] at this ⊢
          omega
        have behind : offset + n + triviaLength false text + 1 + more =
            offset + triviaLength false text + 1 + more + n := by
          omega
        rw [readArguments_of_readArgument found closing first,
          readArguments_of_readArgument found closing further_on, behind, ih _ shorter _ _ rfl]
        cases readArguments start (offset + triviaLength false text + 1 + more) (rest.drop more) <;>
          rfl

theorem readForm_shift (rest : Bytes) :
    readForm (offset + n) rest =
      further n (fun read => (read.1.shift n, read.2)) (readForm offset rest) := by
  unfold readForm
  dsimp only
  generalize triviaLength false rest + 1 +
    ((rest.drop (triviaLength false rest + 1)).takeWhile isIdentifierByte).length = opening
  have start : offset + n + 1 + opening = offset + 1 + opening + n := by omega
  rw [start, readArguments_shift]
  cases readArguments offset (offset + 1 + opening) (rest.drop opening) <;> rfl

theorem readLexeme_shift (depth : Nat) (b : UInt8) (rest : Bytes) :
    readLexeme depth (offset + n) b rest =
      further n (·.shift n) (readLexeme depth offset b rest) := by
  unfold readLexeme
  rw [readForm_shift]
  split_ifs
  · rfl
  · cases stringBody rest <;> rfl
  · rfl
  · cases readForm offset rest <;> rfl
  all_goals rfl

/-- **The pass depends on the offset that it starts from only through the offsets that
it gives.** -/
theorem scan_shift (depth : Nat) (text : Bytes) :
    scan depth (offset + n) text = further n (·.shift n) (scan depth offset text) := by
  induction depth, offset, text using scan.induct with
  | case1 => rw [scan, scan]; rfl
  | case2 depth offset b rest d stop => simp only [scan, readLexeme_shift, stop, further]
  | case3 depth offset b rest l read d stop ih =>
    have behind : offset + n + 1 + l.more = offset + 1 + l.more + n := by omega
    simp only [scan, readLexeme_shift, read, stop, further, Lexeme.shift, behind, ih]
  | case4 depth offset b rest l read e tail ih =>
    have behind : offset + n + 1 + l.more = offset + 1 + l.more + n := by omega
    simp only [scan, readLexeme_shift, read, tail, further, Lexeme.shift, behind, ih]
    cases l.form <;> rfl

end Shifting

/-! ## What a rule sees of the text behind it

The rules for forms look at one byte behind the stretch that they are about, to see that a name or a
comment does not go on. -/

section Lookahead

variable {rest rest' : Bytes}

theorem IsRun.congr {kind : UInt8 → Bool} {run : Bytes} (h : IsRun kind run rest)
    (same : rest'.head? = rest.head?) : IsRun kind run rest' :=
  ⟨h.inside, fun b hb => h.boundary b (same ▸ hb)⟩

theorem head?_append_congr (text : Bytes) (same : rest'.head? = rest.head?) :
    (text ++ rest').head? = (text ++ rest).head? := by
  rw [List.head?_append, List.head?_append, same]

theorem Trivia.congr {run : Bytes} (h : Trivia run rest) (same : rest'.head? = rest.head?) :
    Trivia run rest' := by
  induction h with
  | nil => exact .nil
  | blank isBlank tail ih => exact .blank isBlank (ih same)
  | comment line tail ih => exact .comment (line.congr (head?_append_congr _ same)) (ih same)

theorem ArgumentText.congr {offset : Nat} {text : Bytes} {a : Argument}
    (h : ArgumentText offset text a rest) (same : rest'.head? = rest.head?) :
    ArgumentText offset text a rest' := by
  cases h with
  | capture ne_nil word => exact .capture ne_nil (word.congr same)
  | string string => exact .string string
  | word ne_nil word => exact .word ne_nil (word.congr same)

theorem ArgumentsText.congr {offset : Nat} {text : Bytes} {arguments : List Argument}
    (h : ArgumentsText offset text arguments rest) (same : rest'.head? = rest.head?) :
    ArgumentsText offset text arguments rest' := by
  induction h with
  | nil => exact .nil
  | @cons offset run text more rest a arguments trivia first tail ih =>
    have behind := head?_append_congr more same
    exact .cons (trivia.congr (head?_append_congr text behind)) (first.congr behind) (ih same)

theorem FormFront.congr {offset : Nat} {text : Bytes} {raw : RawPredicate}
    (h : FormFront offset text raw rest) (same : rest'.head? = rest.head?) :
    FormFront offset text raw rest' := by
  obtain @⟨blanks, operator, body, run, _, arguments, isBlank, word, tail, trivia⟩ := h
  have behind := head?_append_congr run same
  exact .mk isBlank (word.congr (head?_append_congr body behind)) (tail.congr behind)
    (trivia.congr same)

/-- A form is read alike whatever stands behind its closing parenthesis. -/
theorem readForm_text_append {offset n : Nat} {text : Bytes} {form : RawPredicate}
    (opens : HashComes text) (read : readForm offset text = .ok (form, n)) (behind : Bytes) :
    readForm offset (text ++ behind) = .ok (form, n) := by
  obtain ⟨front, raw, rest, rfl, reads, ⟨tail, rfl⟩ | ⟨d, breaks⟩⟩ := exists_formFront offset opens
  · have closed : FormFront offset front raw (Ascii.closeParen :: (tail ++ behind)) :=
      reads.congr rfl
    rw [reads.readForm_of_closeParen] at read
    rw [← read, List.append_assoc, List.cons_append]
    exact closed.readForm_of_closeParen
  · cases read.symm.trans (reads.readForm_of_breaksOff breaks)

end Lookahead

/-! ## The end of a text -/

/-- The text ends with a line, if there is any. -/
def EndsLine (text : Bytes) : Prop := ∀ b, text.getLast? = some b → b = Ascii.newline

section Ends

variable {b : UInt8} {rest : Bytes}

theorem EndsLine.drop {text : Bytes} (h : EndsLine text) (n : Nat) : EndsLine (text.drop n) := by
  intro b hb
  rw [List.getLast?_drop] at hb
  split at hb
  · cases hb
  · exact h b hb

theorem EndsLine.tail (h : EndsLine (b :: rest)) : EndsLine rest := by
  simpa using h.drop 1

/-- Behind a byte that is no line end there is one. -/
theorem EndsLine.newline_mem (h : EndsLine (b :: rest)) (hb : b ≠ Ascii.newline) :
    Ascii.newline ∈ rest := by
  obtain ⟨c, last⟩ : ∃ c, (b :: rest).getLast? = some c :=
    ⟨_, List.getLast?_eq_some_getLast (List.cons_ne_nil b rest)⟩
  obtain rfl := h c last
  exact (List.mem_cons.mp (List.mem_of_getLast? last)).resolve_left (Ne.symm hb)

/-- A run of bytes ends before the text does, if a byte of another kind is there. -/
theorem takeWhile_append_of_mem {p : UInt8 → Bool} (hb : b ∈ rest) (stops : p b = false)
    (behind : Bytes) : (rest ++ behind).takeWhile p = rest.takeWhile p := by
  rw [List.takeWhile_append, if_neg]
  intro whole
  have through : rest.takeWhile p = rest := (List.takeWhile_sublist p).eq_of_length whole
  have kept : p b = true := List.all_eq_true.mp List.all_takeWhile b (through.symm ▸ hb)
  exact absurd kept (by simp [stops])

/-- Whether a parenthesis opens a form is decided by the first byte that is no white space. -/
theorem opensForm_append_of_mem (hb : b ∈ rest) (stops : Ascii.isBlank b = false)
    (behind : Bytes) : opensForm (rest ++ behind) = opensForm rest := by
  obtain ⟨blanks, tail, rfl, run⟩ := exists_isRun Ascii.isBlank rest
  cases tail with
  | nil => exact absurd (run.inside b (by simpa using hb)) (by simp [stops])
  | cons c tail =>
    have decides : Ascii.isBlank c = false := run.boundary c rfl
    rw [List.append_assoc, List.cons_append, opensForm_append run.inside,
      opensForm_append run.inside, opensForm_cons decides, opensForm_cons decides]

theorem HashComes.append (h : HashComes rest) (behind : Bytes) : HashComes (rest ++ behind) := by
  obtain ⟨blanks, tail, rfl, isBlank⟩ := h
  exact ⟨blanks, tail ++ behind, by simp, isBlank⟩

end Ends

/-- The number of brackets open behind the pieces of a text, given the number open before them. -/
def openBehind (depth : Nat) : List Piece → Nat
  | [] => depth
  | p :: ps => openBehind p.behind ps

/-- The number of brackets that the pass over a query finds open at its end. -/
def depthAtEnd (source : Bytes) : Nat :=
  match pieces 0 0 source with
  | .ok ps => openBehind 0 ps
  | .error _ => 0

theorem Reading.depthAtEnd_eq {source : Bytes} {ps : List Piece} (h : Reading 0 0 source ps) :
    depthAtEnd source = openBehind 0 ps := by
  rw [depthAtEnd, h.pieces_eq]

section Passes

variable {depth offset : Nat} {text : Bytes} {ps : List Piece}

/-- White space opens and closes nothing. -/
theorem Reading.openBehind_of_blanks (h : Reading depth offset text ps)
    (isBlank : ∀ b ∈ text, Ascii.isBlank b = true) : openBehind depth ps = depth := by
  induction h with
  | nil => rfl
  | @cons depth offset b rest l ps step tail ih =>
    obtain rfl := step.eq_of_isBlank_or_hash (.inl (isBlank b List.mem_cons_self))
    exact ih fun c hc => isBlank c (List.mem_cons_of_mem b hc)

/-- A text that closes a bracket is not all white space. -/
theorem Reading.exists_not_isBlank (h : Reading (depth + 1) offset text ps)
    (closed : openBehind (depth + 1) ps = 0) : ∃ b ∈ text, Ascii.isBlank b = false := by
  by_contra none
  have isBlank : ∀ b ∈ text, Ascii.isBlank b = true := by
    intro b hb
    by_contra notBlank
    exact none ⟨b, hb, by simpa using notBlank⟩
  exact absurd ((h.openBehind_of_blanks isBlank).symm.trans closed) (Nat.succ_ne_zero depth)

/-- **A step does not look behind the end of a line**, if more than white space follows the
parenthesis that it is about. -/
theorem Step.append {b : UInt8} {rest : Bytes} {l : Lexeme} (h : Step depth offset rest b l)
    (lines : EndsLine (b :: rest))
    (decided : b = Ascii.openParen → l.form = none → ∃ c ∈ rest, Ascii.isBlank c = false)
    (behind : Bytes) : Step depth offset (rest ++ behind) b l := by
  cases h with
  | comment =>
    have run := takeWhile_append_of_mem (p := (· ≠ Ascii.newline))
      (lines.newline_mem (by decide)) (by decide) behind
    rw [← run]
    exact .comment
  | @string value n body =>
    -- The string is closed within the text.
    have again := (stringBody_append body).2 (rest.drop n ++ behind)
    rw [← List.append_assoc, List.take_append_drop] at again
    exact .string again
  | form opens inside read =>
    have hash := opensForm_eq_true_iff.mp opens
    exact .form (opensForm_eq_true_iff.mpr (hash.append behind)) inside
      (readForm_text_append hash read behind)
  | paren plain =>
    obtain ⟨c, hc, notBlank⟩ := decided rfl rfl
    exact .paren ((opensForm_append_of_mem hc notBlank behind).trans plain)
  | bracket => exact .bracket
  | close closes => exact .close closes
  | name =>
    have run := takeWhile_append_of_mem (p := isIdentifierByte)
      (lines.newline_mem (by decide)) (by decide) behind
    rw [← run]
    exact .name
  | other alone => exact .other alone

/-- **The pass over two texts in a row.** Behind a text that ends with a line and leaves no bracket
open, the pass goes on as outside all brackets. -/
theorem Reading.scan_append (h : Reading depth offset text ps) (lines : EndsLine text)
    (closed : openBehind depth ps = 0) (behind : Bytes) :
    scan depth offset (text ++ behind) =
      (scan 0 (offset + text.length) behind).map fun e =>
        ⟨structuralText ps ++ e.structural, formsOf ps ++ e.predicates⟩ := by
  induction h with
  | @nil depth offset =>
    obtain rfl : depth = 0 := closed
    cases h : scan 0 offset behind <;> simp [h, Except.map]
  | @cons depth offset b rest l ps step tail ih =>
    have decided (paren : b = Ascii.openParen) (plain : l.form = none) :
        ∃ c ∈ rest, Ascii.isBlank c = false := by
      subst paren
      rcases step.of_openParen with ⟨-, -, form, n, -, rfl⟩ | ⟨-, rfl⟩
      · cases plain
      -- The parenthesis is a bracket, so something behind it has to close it.
      · exact tail.exists_not_isBlank closed
    have again : Step depth offset (rest ++ behind) b l := step.append lines decided behind
    have inside : l.more ≤ rest.length := step.more_le
    have width : offset + 1 + l.more + (rest.drop l.more).length = offset + (b :: rest).length := by
      simp only [List.length_drop, List.length_cons]
      omega
    rw [List.cons_append, scan_cons again, List.drop_append_of_le_length inside,
      List.take_append_of_le_length inside, ih (lines.tail.drop l.more) closed, width]
    cases scan 0 (offset + (b :: rest).length) behind with
    | error d => rfl
    | ok e =>
      cases hf : l.form <;>
        simp [Except.map, Extraction.prepend, Piece.structural, formsOf_cons, hf]

end Passes

/-- **Queries that follow each other are taken apart one by one.** Behind a query that ends with a
line and leaves no bracket open, another one succeeds or fails as it does alone. The structural
texts follow each other, and so do the forms, those of the second query further on by the length of
the first; so does the place where the second one fails. -/
theorem extract_append {first : Bytes} {e₁ : Extraction} (read : extract first = .ok e₁)
    (lines : first.getLast? = some Ascii.newline) (closed : depthAtEnd first = 0)
    (second : Bytes) :
    ((∃ e, extract (first ++ second) = .ok e) ↔ ∃ e₂, extract second = .ok e₂) ∧
    (∀ e₂, extract second = .ok e₂ →
      extract (first ++ second) = .ok ⟨e₁.structural ++ e₂.structural,
        e₁.predicates ++ e₂.predicates.map (·.shift first.length)⟩) ∧
    ∀ err₂, extract second = .error err₂ →
      ∃ err, extract (first ++ second) = .error err ∧
        err.kind = err₂.kind ∧ err.offset = err₂.offset + first.length := by
  obtain ⟨ps, reading, rfl⟩ := extract_eq_ok_iff.mp read
  have ends : EndsLine first := fun b hb => Option.some.inj (hb.symm.trans lines)
  rw [reading.depthAtEnd_eq] at closed
  have pass := reading.scan_append ends closed second
  rw [scan_shift] at pass
  have alone : extract second = (scan 0 0 second).mapError (·.report second) := rfl
  have both : extract (first ++ second) =
      (scan 0 0 (first ++ second)).mapError (·.report (first ++ second)) := rfl
  rw [pass] at both
  cases found : scan 0 0 second with
  | error d =>
    rw [found] at alone both
    refine ⟨iff_of_false ?_ ?_, fun e₂ h => ?_, fun err₂ h => ?_⟩
    · rintro ⟨e, h⟩
      cases h.symm.trans both
    · rintro ⟨e₂, h⟩
      cases h.symm.trans alone
    · cases h.symm.trans alone
    · obtain rfl := Except.error.inj (h.symm.trans alone)
      exact ⟨_, both, rfl, rfl⟩
  | ok e₂ =>
    rw [found] at alone both
    refine ⟨iff_of_true ⟨_, both⟩ ⟨_, alone⟩, fun e h => ?_, fun err₂ h => ?_⟩
    · obtain rfl := Except.ok.inj (h.symm.trans alone)
      exact both
    · cases h.symm.trans alone

/-- A query with a bracket too many, a string with the front of a form in it and a comment with
another at its end, before a query that is taken apart and before one that fails. -/
theorem extract_append_behind_comment :
    ∃ first e₁, first = Bytes.ofText ")((x) @a (#eq? @a \"(#\"))\n; (#c\n" ∧
      extract first = .ok e₁ ∧ first.getLast? = some Ascii.newline ∧ depthAtEnd first = 0 ∧
      extract (first ++ Bytes.ofText "((y) @b (#b? @b))") =
        .ok ⟨e₁.structural ++ Bytes.ofText "((y) @b         )", e₁.predicates ++
          [⟨39, some (Bytes.ofText "b?"), [.capture (Bytes.ofText "b") 45]⟩]⟩ ∧
      ∃ err, extract (first ++ Bytes.ofText "[(z)] (#b? @z)") = .error err ∧
        err.kind = .impossibleStructure ∧ err.offset = 6 + first.length := by
  have read : extract (Bytes.ofText ")((x) @a (#eq? @a \"(#\"))\n; (#c\n") =
      .ok ⟨Bytes.ofText ")((x) @a               )\n; (#c\n", [⟨9, some (Bytes.ofText "eq?"),
        [.capture (Bytes.ofText "a") 16, .literal (Bytes.ofText "(#") 18]⟩]⟩ := by
    decide +kernel
  have lines : (Bytes.ofText ")((x) @a (#eq? @a \"(#\"))\n; (#c\n").getLast? =
      some Ascii.newline := by
    decide
  have closed : depthAtEnd (Bytes.ofText ")((x) @a (#eq? @a \"(#\"))\n; (#c\n") = 0 := by
    decide +kernel
  have form : extract (Bytes.ofText "((y) @b (#b? @b))") =
      .ok ⟨Bytes.ofText "((y) @b         )",
        [⟨8, some (Bytes.ofText "b?"), [.capture (Bytes.ofText "b") 14]⟩]⟩ := by
    decide +kernel
  have outside : extract (Bytes.ofText "[(z)] (#b? @z)") =
      .error (.positioned (Bytes.ofText "[(z)] (#b? @z)") 6 .impossibleStructure) := by
    decide +kernel
  refine ⟨_, _, rfl, read, lines, closed, ?_, ?_⟩
  · exact (extract_append read lines closed _).2.1 _ form
  · exact (extract_append read lines closed _).2.2 _ outside

end SyntaxForest.Query
