import SyntaxForest.Proofs.Query.Reading

/-!
# The grammar of predicate forms

A form is `( ws* # ident? (trivia* arg)* trivia* )`, where an argument is `@ident`, a string or an
identifier, trivia are white space and comments, and an identifier is a run of identifier bytes that
cannot be longer. The rules are stated on texts: each says which stretch of text is what, given the
text that stands behind it. A form that does not go on by the rules breaks off at a first place, and
each way to break off has a defect of its own.

Every text goes on by the rules up to a closing parenthesis or up to such a place, and the readers
follow the rules. So they succeed exactly on the texts that the rules allow, and they fail exactly
with the first defect.

## Main definitions

* `IsRun`, `Trivia`, `StringText`, `ArgumentText`, `ArgumentsText`, `FormFront`: the rules
* `BreaksOff`: the ways in which a form breaks off

## Main results

* `stringBody_eq_some_iff`: the texts that are read as strings
* `ArgumentsText.readArguments_append`: arguments are read up to what stands behind them
* `exists_formFront`: every form goes on by the rules up to its end or a first defect
* `FormFront.readForm_of_closeParen`, `FormFront.readForm_of_breaksOff`: what the form reader makes
  of it
-/

namespace SyntaxForest.Query

/-! ## Runs, white space and comments -/

/-- A run of bytes of one kind, which the text behind it does not go on with. -/
structure IsRun (kind : UInt8 → Bool) (run rest : Bytes) : Prop where
  /-- The bytes are of the kind. -/
  inside : ∀ b ∈ run, kind b = true
  /-- The next byte, if there is one, is not. -/
  boundary : ∀ b, rest.head? = some b → kind b = false

theorem IsRun.takeWhile_eq {kind : UInt8 → Bool} {run rest : Bytes} (h : IsRun kind run rest) :
    (run ++ rest).takeWhile kind = run :=
  takeWhile_append_boundary h.inside h.boundary

theorem exists_isRun (kind : UInt8 → Bool) (text : Bytes) :
    ∃ run rest, text = run ++ rest ∧ IsRun kind run rest := by
  refine ⟨text.takeWhile kind, text.drop (text.takeWhile kind).length, ?_, ?_,
    fun b => head?_drop_takeWhile⟩
  · conv => lhs; rw [← List.take_append_drop (text.takeWhile kind).length text]
    rw [← List.prefix_iff_eq_take.mp (List.takeWhile_prefix kind)]
  · exact fun b hb => List.all_eq_true.mp List.all_takeWhile b hb

/-- White space and comments, a comment running up to before the next line end. -/
inductive Trivia : Bytes → Bytes → Prop
  /-- There may be none. -/
  | nil {rest : Bytes} : Trivia [] rest
  /-- A byte of white space. -/
  | blank {b : UInt8} {run rest : Bytes} (isBlank : Ascii.isBlank b = true)
      (tail : Trivia run rest) : Trivia (b :: run) rest
  /-- A comment. -/
  | comment {body run rest : Bytes} (line : IsRun (· ≠ Ascii.newline) body (run ++ rest))
      (tail : Trivia run rest) : Trivia (Ascii.semicolon :: (body ++ run)) rest

/-- The text begins with neither white space nor a comment. -/
def StopsTrivia (text : Bytes) : Prop :=
  ∀ b, text.head? = some b → Ascii.isBlank b = false ∧ b ≠ Ascii.semicolon

/-- A comment is passed up to the end of its line. -/
theorem triviaLength_true {body text : Bytes} (line : IsRun (· ≠ Ascii.newline) body text) :
    triviaLength true (body ++ text) = body.length + triviaLength false text := by
  obtain ⟨inside, boundary⟩ := line
  induction body with
  | nil =>
    cases text with
    | nil => rfl
    | cons b text =>
      obtain rfl : b = Ascii.newline := by simpa using boundary b rfl
      simp [triviaLength, Ascii.isBlank, Ascii.newline]
  | cons b body ih =>
    have notNewline : b ≠ Ascii.newline := by simpa using inside b List.mem_cons_self
    have rest := ih fun c hc => inside c (List.mem_cons_of_mem b hc)
    simp only [List.cons_append, triviaLength, if_true, notNewline, ne_eq, not_false_eq_true,
      decide_true, rest, List.length_cons]
    omega

/-- Trivia are passed up to a byte that stops them. -/
theorem Trivia.triviaLength_eq {run rest : Bytes} (h : Trivia run rest) (stops : StopsTrivia rest) :
    triviaLength false (run ++ rest) = run.length := by
  induction h with
  | @nil rest =>
    cases rest with
    | nil => rfl
    | cons b rest =>
      obtain ⟨notBlank, notComment⟩ := stops b rfl
      simp [triviaLength, notBlank, notComment]
  | blank isBlank tail ih => simp [triviaLength, isBlank, ih stops]
  | @comment body run rest line tail ih =>
    have opens : triviaLength false (Ascii.semicolon :: (body ++ (run ++ rest))) =
        triviaLength true (body ++ (run ++ rest)) + 1 := by
      simp [triviaLength, Ascii.semicolon, Ascii.isBlank]
    rw [List.cons_append, List.append_assoc, opens, triviaLength_true line, ih stops,
      List.length_cons, List.length_append]

/-- Every text begins with trivia, up to a byte that stops them. -/
theorem exists_trivia (text : Bytes) :
    ∃ run rest, text = run ++ rest ∧ Trivia run rest ∧ StopsTrivia rest := by
  -- A comment takes away more than one byte, so the induction is on the length of the text.
  induction hn : text.length using Nat.strongRecOn generalizing text with
  | ind n ih =>
    subst hn
    cases text with
    | nil => exact ⟨[], [], rfl, .nil, by simp [StopsTrivia]⟩
    | cons b text =>
      by_cases isBlank : Ascii.isBlank b = true
      · obtain ⟨run, rest, rfl, trivia, stops⟩ := ih _ (Nat.lt_succ_self _) text rfl
        exact ⟨b :: run, rest, rfl, .blank isBlank trivia, stops⟩
      by_cases isComment : b = Ascii.semicolon
      · subst isComment
        obtain ⟨body, text, rfl, line⟩ := exists_isRun (· ≠ Ascii.newline) text
        have shorter : text.length < (Ascii.semicolon :: (body ++ text)).length := by
          simp only [List.length_cons, List.length_append]
          omega
        obtain ⟨run, rest, rfl, trivia, stops⟩ := ih _ shorter text rfl
        exact ⟨_, rest, by simp, .comment line trivia, stops⟩
      · refine ⟨[], b :: text, rfl, .nil, fun c hc => ?_⟩
        obtain rfl := Option.some.inj hc
        exact ⟨by simpa using isBlank, isComment⟩

/-! ## Strings -/

/-- A string from behind its opening quote through its closing one, with its value. A backslash
takes the next byte. -/
inductive StringText : Bytes → Bytes → Prop
  /-- The closing quote. -/
  | close : StringText [Ascii.quote] []
  /-- An escape. -/
  | escape {e : UInt8} {text value : Bytes} (tail : StringText text value) :
      StringText (Ascii.backslash :: e :: text) (unescape e :: value)
  /-- Any other byte stands for itself. -/
  | plain {b : UInt8} {text value : Bytes} (notQuote : b ≠ Ascii.quote)
      (notEscape : b ≠ Ascii.backslash) (tail : StringText text value) :
      StringText (b :: text) (b :: value)

/-- The text begins with the rest of a string. -/
def Closes (text : Bytes) : Prop := ∃ body rest value, text = body ++ rest ∧ StringText body value

theorem StringText.stringBody_append {body value : Bytes} (h : StringText body value)
    (rest : Bytes) : stringBody (body ++ rest) = some (value, body.length) := by
  induction h with
  | close => simp
  | escape tail ih => simp [ih]
  | plain notQuote notEscape tail ih => simp [stringBody_cons notQuote notEscape, ih]

theorem stringText_of_stringBody_eq {text value : Bytes} {n : Nat}
    (h : stringBody text = some (value, n)) : StringText (text.take n) value := by
  induction text using stringBody.induct generalizing value n with
  | case1 => simp at h
  | case2 rest =>
    simp only [stringBody_quote, Option.some.injEq, Prod.mk.injEq] at h
    obtain ⟨rfl, rfl⟩ := h
    exact .close
  | case3 => simp at h
  | case4 e rest _ ih =>
    simp only [stringBody_backslash_cons, Option.map_eq_some_iff] at h
    obtain ⟨⟨value', n'⟩, h, eq⟩ := h
    cases eq
    exact .escape (ih h)
  | case5 b rest notQuote notEscape ih =>
    simp only [stringBody_cons notQuote notEscape, Option.map_eq_some_iff] at h
    obtain ⟨⟨value', n'⟩, h, eq⟩ := h
    cases eq
    exact .plain notQuote notEscape (ih h)

/-- A text is read as a string exactly where one stands at its front. -/
theorem stringBody_eq_some_iff {text value : Bytes} {n : Nat} :
    stringBody text = some (value, n) ↔
      ∃ body rest, text = body ++ rest ∧ n = body.length ∧ StringText body value := by
  constructor
  · intro h
    exact ⟨text.take n, text.drop n, (List.take_append_drop n text).symm,
      (List.length_take_of_le (stringBody_append h).1).symm, stringText_of_stringBody_eq h⟩
  · rintro ⟨body, rest, rfl, rfl, string⟩
    exact string.stringBody_append rest

theorem stringBody_eq_none_iff {text : Bytes} : stringBody text = none ↔ ¬ Closes text := by
  constructor
  · rintro h ⟨body, rest, value, rfl, string⟩
    cases h.symm.trans (string.stringBody_append rest)
  · intro unclosed
    refine Option.eq_none_iff_forall_ne_some.mpr fun ⟨value, n⟩ h => unclosed ?_
    obtain ⟨body, rest, split, -, string⟩ := stringBody_eq_some_iff.mp h
    exact ⟨body, rest, value, split, string⟩

/-! ## Arguments -/

/-- An argument that stands at an offset. -/
inductive ArgumentText (offset : Nat) : Bytes → Argument → Bytes → Prop
  /-- A capture: `@ident`, with the offset of its name. -/
  | capture {name rest : Bytes} (ne_nil : name ≠ []) (word : IsRun isIdentifierByte name rest) :
      ArgumentText offset (Ascii.atSign :: name) (.capture name (offset + 1)) rest
  /-- A string, with the offset of its opening quote. -/
  | string {body value rest : Bytes} (string : StringText body value) :
      ArgumentText offset (Ascii.quote :: body) (.literal value offset) rest
  /-- A bare word. -/
  | word {name rest : Bytes} (ne_nil : name ≠ []) (word : IsRun isIdentifierByte name rest) :
      ArgumentText offset name (.literal name offset) rest

/-- Arguments that stand from an offset on, each behind trivia. -/
inductive ArgumentsText : Nat → Bytes → List Argument → Bytes → Prop
  /-- There may be none. -/
  | nil {offset : Nat} {rest : Bytes} : ArgumentsText offset [] [] rest
  /-- An argument, and those behind it. -/
  | cons {offset : Nat} {run text more rest : Bytes} {a : Argument} {arguments : List Argument}
      (trivia : Trivia run (text ++ (more ++ rest)))
      (first : ArgumentText (offset + run.length) text a (more ++ rest))
      (tail : ArgumentsText (offset + run.length + text.length) more arguments rest) :
      ArgumentsText offset (run ++ (text ++ more)) (a :: arguments) rest

/-- The form that opened at `start` breaks off at an offset, where this text stands: it ends, or
neither an argument nor a closing parenthesis can be read. -/
inductive BreaksOff (start offset : Nat) : Bytes → Defect → Prop
  /-- The text ends. -/
  | ended : BreaksOff start offset [] ⟨.malformed, start⟩
  /-- No name follows an at sign. -/
  | nameless {rest : Bytes} (none : ∀ b, rest.head? = some b → isIdentifierByte b = false) :
      BreaksOff start offset (Ascii.atSign :: rest) ⟨.malformed, offset⟩
  /-- A string is not closed. -/
  | unclosed {rest : Bytes} (never : ¬ Closes rest) :
      BreaksOff start offset (Ascii.quote :: rest) ⟨.malformed, offset⟩
  /-- A byte begins nothing that may stand here. -/
  | stray {b : UInt8} {rest : Bytes} (notBlank : Ascii.isBlank b = false)
      (notWord : isIdentifierByte b = false)
      (notSign : b ∉ [Ascii.semicolon, Ascii.atSign, Ascii.quote, Ascii.closeParen]) :
      BreaksOff start offset (b :: rest) ⟨.malformed, offset⟩

theorem isIdentifierByte_of_isBlank {b : UInt8} (h : Ascii.isBlank b = true) :
    isIdentifierByte b = false := by
  simp only [Ascii.isBlank, Bool.or_eq_true, decide_eq_true_eq] at h
  rcases h with (((rfl | rfl) | rfl) | rfl) | rfl <;> decide

/-- An identifier byte is none of the bytes that mean something else in a form. -/
theorem not_isBlank_of_isIdentifierByte {b : UInt8} (h : isIdentifierByte b = true) :
    Ascii.isBlank b = false ∧
      b ∉ [Ascii.semicolon, Ascii.atSign, Ascii.quote, Ascii.closeParen] := by
  refine ⟨Bool.eq_false_iff.mpr fun blank => ?_, fun sign => ?_⟩
  · exact absurd (isIdentifierByte_of_isBlank blank) (by simp [h])
  · simp only [List.mem_cons, List.not_mem_nil, or_false] at sign
    rcases sign with rfl | rfl | rfl | rfl <;> exact absurd h (by decide)

section Arguments

variable {start offset : Nat} {text rest : Bytes} {a : Argument} {arguments : List Argument}

/-- An argument is read from its first byte, which is none that ends or skips to an argument. -/
theorem ArgumentText.readArgument_eq (h : ArgumentText offset text a rest) :
    ∃ b more, text = b :: more ∧ readArgument offset b (more ++ rest) = .ok (a, more.length) ∧
      b ≠ Ascii.closeParen ∧ StopsTrivia (b :: (more ++ rest)) := by
  -- No argument begins with what is skipped in front of one.
  have stops {b : UInt8} {text : Bytes} (notBlank : Ascii.isBlank b = false)
      (notComment : b ≠ Ascii.semicolon) : StopsTrivia (b :: text) :=
    fun c hc => Option.some.inj hc ▸ ⟨notBlank, notComment⟩
  cases h with
  | @capture name _ ne_nil word =>
    refine ⟨_, name, rfl, ?_, by decide, stops (by decide) (by decide)⟩
    simp only [readArgument, if_true, word.takeWhile_eq]
  | @string body value _ string =>
    refine ⟨_, body, rfl, ?_, by decide, stops (by decide) (by decide)⟩
    have notAt : Ascii.quote ≠ Ascii.atSign := by decide
    simp [readArgument, notAt, string.stringBody_append]
  | @word _ _ ne_nil word =>
    cases text with
    | nil => exact absurd rfl ne_nil
    | cons b more =>
      have isWord := word.inside b List.mem_cons_self
      obtain ⟨notBlank, notSign⟩ := not_isBlank_of_isIdentifierByte isWord
      simp only [List.mem_cons, List.not_mem_nil, or_false, not_or] at notSign
      obtain ⟨notComment, notAt, notQuote, notClosing⟩ := notSign
      have run : (more ++ rest).takeWhile isIdentifierByte = more := by
        have := word.takeWhile_eq
        rw [List.cons_append, List.takeWhile_cons_of_pos isWord] at this
        exact (List.cons.inj this).2
      refine ⟨b, more, rfl, ?_, notClosing, stops notBlank notComment⟩
      simp [readArgument, notAt, notQuote, isWord, run]

/-- Where a form breaks off at a byte, no argument can be read. -/
theorem BreaksOff.readArgument_eq {b : UInt8} {d : Defect}
    (h : BreaksOff start offset (b :: rest) d) : readArgument offset b rest = .error d := by
  cases h with
  | nameless none =>
    have noName : rest.takeWhile isIdentifierByte = [] := by
      have run : IsRun isIdentifierByte [] rest := ⟨by simp, none⟩
      exact run.takeWhile_eq
    simp only [readArgument, if_true, noName]
  | unclosed never =>
    have notAt : Ascii.quote ≠ Ascii.atSign := by decide
    simp [readArgument, notAt, stringBody_eq_none_iff.mpr never]
  | stray notBlank notWord notSign =>
    simp only [List.mem_cons, List.not_mem_nil, or_false, not_or] at notSign
    simp [readArgument, notSign, notWord]

theorem BreaksOff.stopsTrivia {d : Defect} (h : BreaksOff start offset text d) :
    StopsTrivia text ∧ text.head? ≠ some Ascii.closeParen := by
  have sure {b : UInt8} {rest : Bytes} (notBlank : Ascii.isBlank b = false)
      (notSign : b ≠ Ascii.semicolon ∧ b ≠ Ascii.closeParen) :
      StopsTrivia (b :: rest) ∧ (b :: rest).head? ≠ some Ascii.closeParen :=
    ⟨fun c hc => Option.some.inj hc ▸ ⟨notBlank, notSign.1⟩,
      fun closing => notSign.2 (Option.some.inj closing)⟩
  cases h with
  | ended => exact ⟨nofun, nofun⟩
  | nameless => exact sure (by decide) (by decide)
  | unclosed => exact sure (by decide) (by decide)
  | stray notBlank notWord notSign =>
    simp only [List.mem_cons, List.not_mem_nil, or_false, not_or] at notSign
    exact sure notBlank ⟨notSign.1, notSign.2.2.2⟩

/-- Where trivia stop before no closing parenthesis, an argument stands or the form breaks off. -/
theorem exists_argument_or_breaksOff (start offset : Nat) (stops : StopsTrivia text)
    (notClosing : text.head? ≠ some Ascii.closeParen) :
    (∃ a body rest, text = body ++ rest ∧ ArgumentText offset body a rest) ∨
      ∃ d, BreaksOff start offset text d := by
  cases text with
  | nil => exact .inr ⟨_, .ended⟩
  | cons b text =>
    obtain ⟨notBlank, notComment⟩ := stops b rfl
    by_cases isAt : b = Ascii.atSign
    · subst isAt
      obtain ⟨name, rest, rfl, word⟩ := exists_isRun isIdentifierByte text
      cases name with
      | nil => exact .inr ⟨_, .nameless word.boundary⟩
      | cons c name => exact .inl ⟨_, _, rest, rfl, .capture (List.cons_ne_nil c name) word⟩
    by_cases isQuote : b = Ascii.quote
    · subst isQuote
      by_cases closes : Closes text
      · obtain ⟨body, rest, value, rfl, string⟩ := closes
        exact .inl ⟨_, _, rest, rfl, .string string⟩
      · exact .inr ⟨_, .unclosed closes⟩
    by_cases isWord : isIdentifierByte b = true
    · obtain ⟨name, rest, split, word⟩ := exists_isRun isIdentifierByte (b :: text)
      -- The run is not empty, as its boundary would be a byte of its kind.
      refine .inl ⟨_, name, rest, split, .word ?_ word⟩
      rintro rfl
      exact absurd (word.boundary b (congrArg List.head? split).symm) (by simp [isWord])
    · refine .inr ⟨_, .stray notBlank (by simpa using isWord) ?_⟩
      simp only [List.mem_cons, List.not_mem_nil, or_false, not_or]
      exact ⟨notComment, isAt, isQuote, fun closing => notClosing (congrArg some closing)⟩

/-- **Arguments are read up to what stands behind them.** -/
theorem ArgumentsText.readArguments_append (start : Nat)
    (h : ArgumentsText offset text arguments rest) :
    readArguments start offset (text ++ rest) =
      (readArguments start (offset + text.length) rest).map
        fun read => (arguments ++ read.1, text.length + read.2) := by
  induction h with
  | @nil offset rest =>
    rw [List.nil_append, List.length_nil, Nat.add_zero]
    cases readArguments start offset rest <;> simp [Except.map]
  | @cons offset run text more rest a arguments trivia first tail ih =>
    obtain ⟨b, body, rfl, read, inside, stops⟩ := first.readArgument_eq
    -- The reader skips the trivia, reads the argument and goes on where the rule goes on.
    have skipped : triviaLength false (run ++ (b :: body ++ (more ++ rest))) = run.length :=
      trivia.triviaLength_eq stops
    have behind : offset + run.length + 1 + body.length =
        offset + run.length + (b :: body).length := by
      simp only [List.length_cons]
      omega
    have width : offset + (run ++ (b :: body ++ more)).length =
        offset + run.length + (b :: body).length + more.length := by
      simp only [List.length_append]
      omega
    have front : (run ++ (b :: body ++ (more ++ rest))).drop run.length =
        b :: (body ++ (more ++ rest)) := by
      rw [List.drop_left, List.cons_append]
    rw [List.append_assoc, List.append_assoc, readArguments_of_readArgument (skipped ▸ front) inside
      (skipped.symm ▸ read), skipped, List.drop_left, behind, ih, width]
    cases readArguments start _ rest with
    | error d => rfl
    | ok read =>
      simp only [Except.map, List.cons_append, List.length_append, List.length_cons,
        Except.ok.injEq, Prod.mk.injEq, true_and]
      omega

theorem Trivia.readArguments_of_closeParen {run : Bytes} (start offset : Nat)
    (h : Trivia run (Ascii.closeParen :: rest)) :
    readArguments start offset (run ++ Ascii.closeParen :: rest) = .ok ([], run.length + 1) := by
  have skipped := h.triviaLength_eq (by rintro b ⟨⟩; decide)
  rw [Query.readArguments_of_closeParen (by rw [skipped, List.drop_left]), skipped]

theorem Trivia.readArguments_of_breaksOff {run : Bytes} {d : Defect} (h : Trivia run rest)
    (breaks : BreaksOff start (offset + run.length) rest d) :
    readArguments start offset (run ++ rest) = .error d := by
  obtain ⟨stops, notClosing⟩ := breaks.stopsTrivia
  have skipped := h.triviaLength_eq stops
  rw [readArguments, skipped, List.drop_left]
  cases rest with
  | nil => cases breaks; rfl
  | cons b rest =>
    have inside : b ≠ Ascii.closeParen := fun closing => notClosing (congrArg some closing)
    simp only [inside, if_false, breaks.readArgument_eq]

/-- Every text begins with arguments and trivia, behind which a closing parenthesis stands or the
form breaks off. -/
theorem exists_argumentsText (start offset : Nat) (text : Bytes) :
    ∃ body arguments run rest, text = body ++ (run ++ rest) ∧
      ArgumentsText offset body arguments (run ++ rest) ∧ Trivia run rest ∧
      ((∃ tail, rest = Ascii.closeParen :: tail) ∨
        ∃ d, BreaksOff start (offset + body.length + run.length) rest d) := by
  -- An argument is not empty, so what stands behind it is shorter.
  induction hn : text.length using Nat.strongRecOn generalizing offset text with
  | ind n ih =>
    subst hn
    obtain ⟨run, rest, rfl, trivia, stops⟩ := exists_trivia text
    by_cases closing : rest.head? = some Ascii.closeParen
    · obtain ⟨tail, rfl⟩ := List.head?_eq_some_iff.mp closing
      exact ⟨[], [], run, _, rfl, .nil, trivia, .inl ⟨tail, rfl⟩⟩
    obtain ⟨a, word, behind, rfl, first⟩ | breaks :=
      exists_argument_or_breaksOff start (offset + run.length) stops closing
    · have shorter : behind.length < (run ++ (word ++ behind)).length := by
        obtain ⟨b, more, rfl, -⟩ := first.readArgument_eq
        simp only [List.length_append, List.length_cons]
        omega
      obtain ⟨body, arguments, run', rest, rfl, tail, trivia', last⟩ :=
        ih _ shorter (offset + run.length + word.length) behind rfl
      have width : offset + (run ++ (word ++ body)).length =
          offset + run.length + word.length + body.length := by
        simp only [List.length_append]
        omega
      exact ⟨run ++ (word ++ body), a :: arguments, run', rest, by simp, .cons trivia first tail,
        trivia', by rwa [width]⟩
    · exact ⟨[], [], run, rest, rfl, .nil, trivia, .inr breaks⟩

end Arguments

/-! ## Forms -/

/-- A form that opened at an offset, from behind its parenthesis up to before the closing one. A
hash sign follows the white space, and an operator may follow the hash sign. -/
inductive FormFront (offset : Nat) : Bytes → RawPredicate → Bytes → Prop
  /-- The white space, the hash sign, the operator, the arguments and the trivia behind them. -/
  | mk {blanks operator body run rest : Bytes} {arguments : List Argument}
      (isBlank : ∀ b ∈ blanks, Ascii.isBlank b = true)
      (word : IsRun isIdentifierByte operator (body ++ (run ++ rest)))
      (tail : ArgumentsText (offset + 2 + blanks.length + operator.length) body arguments
        (run ++ rest))
      (trivia : Trivia run rest) :
      FormFront offset (blanks ++ Ascii.hash :: (operator ++ (body ++ run)))
        ⟨offset, if operator = [] then none else some operator, arguments⟩ rest

/-- A hash sign follows the white space. -/
def HashComes (text : Bytes) : Prop :=
  ∃ blanks rest, text = blanks ++ Ascii.hash :: rest ∧ ∀ b ∈ blanks, Ascii.isBlank b = true

theorem Trivia.of_blanks {blanks rest : Bytes} (h : ∀ b ∈ blanks, Ascii.isBlank b = true) :
    Trivia blanks rest := by
  induction blanks with
  | nil => exact .nil
  | cons b blanks ih =>
    exact .blank (h b List.mem_cons_self) (ih fun c hc => h c (List.mem_cons_of_mem b hc))

theorem opensForm_eq_true_iff {text : Bytes} : opensForm text = true ↔ HashComes text := by
  have opens (text : Bytes) :
      opensForm text = true ↔ (text.dropWhile Ascii.isBlank).head? = some Ascii.hash := by
    simp [opensForm]
  constructor
  · intro h
    obtain ⟨rest, behind⟩ := List.head?_eq_some_iff.mp ((opens text).mp h)
    refine ⟨text.takeWhile Ascii.isBlank, rest, ?_, fun b hb => ?_⟩
    · rw [← behind, List.takeWhile_append_dropWhile]
    · exact List.all_eq_true.mp List.all_takeWhile b hb
  · rintro ⟨blanks, rest, rfl, isBlank⟩
    rw [opens, List.dropWhile_append_of_pos isBlank]
    rfl

/-- Where the front of a form ends. -/
theorem front_end (offset : Nat) (blanks operator body run : Bytes) :
    offset + 1 + (blanks ++ Ascii.hash :: (operator ++ (body ++ run))).length =
      offset + 2 + blanks.length + operator.length + body.length + run.length := by
  simp only [List.length_append, List.length_cons]
  omega

section Forms

variable {offset : Nat} {text rest : Bytes} {raw : RawPredicate} {d : Defect}

theorem FormFront.hashComes (h : FormFront offset text raw rest) (tail : Bytes) :
    HashComes (text ++ tail) := by
  obtain ⟨isBlank, -, -, -⟩ := h
  exact ⟨_, _, by rw [List.append_assoc, List.cons_append], isBlank⟩

/-- **Every form goes on by the rules**, up to its closing parenthesis or until it breaks off. -/
theorem exists_formFront (offset : Nat) (h : HashComes text) :
    ∃ front raw rest, text = front ++ rest ∧ FormFront offset front raw rest ∧
      ((∃ tail, rest = Ascii.closeParen :: tail) ∨
        ∃ d, BreaksOff offset (offset + 1 + front.length) rest d) := by
  obtain ⟨blanks, text, rfl, isBlank⟩ := h
  obtain ⟨operator, text, rfl, word⟩ := exists_isRun isIdentifierByte text
  obtain ⟨body, arguments, run, rest, rfl, reading, trivia, last⟩ :=
    exists_argumentsText offset (offset + 2 + blanks.length + operator.length) text
  exact ⟨_, _, rest, by simp, .mk isBlank word reading trivia, by rwa [front_end]⟩

/-- The form reader reads on from the arguments. -/
theorem readForm_append {blanks operator tail : Bytes}
    (isBlank : ∀ b ∈ blanks, Ascii.isBlank b = true) (word : IsRun isIdentifierByte operator tail) :
    readForm offset (blanks ++ Ascii.hash :: (operator ++ tail)) =
      (readArguments offset (offset + 2 + blanks.length + operator.length) tail).map fun read =>
        (⟨offset, if operator = [] then none else some operator, read.1⟩,
          blanks.length + 1 + operator.length + read.2) := by
  -- The reader skips trivia in front of the hash sign, but only blanks can stand there.
  have opening : triviaLength false (blanks ++ Ascii.hash :: (operator ++ tail)) = blanks.length :=
    (Trivia.of_blanks isBlank).triviaLength_eq (by rintro b ⟨⟩; decide)
  have name : (blanks ++ Ascii.hash :: (operator ++ tail)).drop (blanks.length + 1) =
      operator ++ tail := by
    simp
  have start : offset + 1 + (blanks.length + 1 + operator.length) =
      offset + 2 + blanks.length + operator.length := by
    omega
  have behind : (blanks ++ Ascii.hash :: (operator ++ tail)).drop
      (blanks.length + 1 + operator.length) = tail := by
    rw [← List.drop_drop, name, List.drop_left]
  simp only [readForm, opening, name, word.takeWhile_eq, start, behind]
  cases readArguments offset (offset + 2 + blanks.length + operator.length) tail <;> rfl

/-- A form that goes on to its closing parenthesis is read. -/
theorem FormFront.readForm_of_closeParen
    (h : FormFront offset text raw (Ascii.closeParen :: rest)) :
    readForm offset (text ++ Ascii.closeParen :: rest) = .ok (raw, text.length + 1) := by
  obtain ⟨isBlank, word, arguments, trivia⟩ := h
  simp only [List.append_assoc, List.cons_append]
  rw [readForm_append isBlank word, arguments.readArguments_append,
    trivia.readArguments_of_closeParen]
  simp only [Except.map, List.append_nil, List.length_append, List.length_cons, Except.ok.injEq,
    Prod.mk.injEq, true_and]
  omega

/-- A form that breaks off is reported with its first defect. -/
theorem FormFront.readForm_of_breaksOff (h : FormFront offset text raw rest)
    (breaks : BreaksOff offset (offset + 1 + text.length) rest d) :
    readForm offset (text ++ rest) = .error d := by
  obtain ⟨isBlank, word, arguments, trivia⟩ := h
  simp only [List.append_assoc, List.cons_append]
  rw [readForm_append isBlank word, arguments.readArguments_append,
    trivia.readArguments_of_breaksOff]
  · rfl
  · rwa [← front_end]

end Forms

end SyntaxForest.Query
