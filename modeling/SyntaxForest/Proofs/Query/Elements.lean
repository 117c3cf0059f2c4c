import SyntaxForest.Proofs.Query.Grammar

/-!
# The grammar of queries

A query is a sequence of comments, strings, predicate forms, brackets and other bytes. A form stands
inside a bracket, and a closing bracket without an opening one is not counted. Reading stops at the
first place where no element can stand: a string that never closes, a form outside all brackets, or
a form that breaks off.

The pass over a query follows these rules. It succeeds on the texts that can be read to their end,
with the forms among their elements, and it reports the first defect of every other text.

## Main definitions

* `Element`, `Element.Stands`: the elements, and where they may stand
* `Reads`: the sequences of elements that a text is read as
* `Stuck`, `FirstDefect`: the ways in which reading stops before the end

## Main results

* `exists_reads`: every text can be read up to its end or a first defect
* `Reads.unique`: no text can be read in two ways
* `Reads.scan_append`, `Stuck.scan_eq`: the pass goes on behind elements, and stops at a defect
* `extract_follows_grammar`: the queries that are taken apart are those of the grammar
-/

namespace SyntaxForest.Query

/-! ## Elements -/

/-- What a query is a sequence of. -/
inductive Element where
  /-- A comment, with its text behind the semicolon. -/
  | comment (body : Bytes)
  /-- A string, with its text behind the opening quote. -/
  | string (body : Bytes)
  /-- A form, with what it says and its text behind the opening parenthesis. -/
  | form (raw : RawPredicate) (body : Bytes)
  /-- A bracket or any other byte. -/
  | byte (b : UInt8)
  deriving DecidableEq, Repr

namespace Element

/-- The text of an element. -/
def text : Element → Bytes
  | comment body => Ascii.semicolon :: body
  | string body => Ascii.quote :: body
  | form _ body => Ascii.openParen :: body
  | byte b => [b]

/-- The form that an element is. -/
def form? : Element → Option RawPredicate
  | form raw _ => some raw
  | _ => none

/-- What the structural text holds in place of an element. -/
def structural (e : Element) : Bytes :=
  match e.form? with
  | none => e.text
  | some _ => blank e.text

/-- The number of brackets open behind an element. -/
def behind (depth : Nat) : Element → Nat
  | byte b =>
    if b = Ascii.openParen ∨ b = Ascii.openBracket then depth + 1
    else if b = Ascii.closeParen ∨ b = Ascii.closeBracket then depth - 1
    else depth
  | _ => depth

/-- An element may stand at an offset, inside `depth` brackets and in front of this text. -/
inductive Stands (depth offset : Nat) : Element → Bytes → Prop
  /-- A comment runs up to before a line end. -/
  | comment {body rest : Bytes} (line : IsRun (· ≠ Ascii.newline) body rest) :
      Stands depth offset (.comment body) rest
  /-- A string is closed. -/
  | string {body value rest : Bytes} (string : StringText body value) :
      Stands depth offset (.string body) rest
  /-- A form stands inside a bracket and is closed. -/
  | form {front rest : Bytes} {raw : RawPredicate} (inside : 0 < depth)
      (form : FormFront offset front raw (Ascii.closeParen :: rest)) :
      Stands depth offset (.form raw (front ++ [Ascii.closeParen])) rest
  /-- Any other byte opens no comment, no string and no form. -/
  | byte {b : UInt8} {rest : Bytes} (notComment : b ≠ Ascii.semicolon) (notString : b ≠ Ascii.quote)
      (notForm : b = Ascii.openParen → ¬ HashComes rest) : Stands depth offset (.byte b) rest

end Element

/-- The text of a sequence of elements. -/
def textOf (es : List Element) : Bytes := es.flatMap Element.text

/-- The structural text and the forms of a sequence of elements. -/
def extractionOf (es : List Element) : Extraction :=
  ⟨es.flatMap Element.structural, es.filterMap Element.form?⟩

/-- The number of brackets open behind a sequence of elements. -/
def depthBehind (depth : Nat) (es : List Element) : Nat := es.foldl Element.behind depth

/-- A text that begins at an offset, inside `depth` brackets, can be read as these elements up to
`rest`. -/
inductive Reads (rest : Bytes) : Nat → Nat → List Element → Prop
  /-- Nothing is read. -/
  | nil {depth offset : Nat} : Reads rest depth offset []
  /-- An element is read, and others behind it. -/
  | cons {depth offset : Nat} {e : Element} {es : List Element}
      (first : e.Stands depth offset (textOf es ++ rest))
      (tail : Reads rest (e.behind depth) (offset + e.text.length) es) :
      Reads rest depth offset (e :: es)

/-- No element can stand at an offset, inside `depth` brackets, where this text stands. -/
inductive Stuck (depth offset : Nat) : Bytes → Defect → Prop
  /-- A string never closes. -/
  | unclosed {rest : Bytes} (never : ¬ Closes rest) :
      Stuck depth offset (Ascii.quote :: rest) ⟨.malformed, offset⟩
  /-- A form stands outside all brackets. -/
  | outside {rest : Bytes} (outer : depth = 0) (opens : HashComes rest) :
      Stuck depth offset (Ascii.openParen :: rest) ⟨.impossibleStructure, offset⟩
  /-- A form breaks off. -/
  | broken {front rest : Bytes} {raw : RawPredicate} {d : Defect} (inside : 0 < depth)
      (form : FormFront offset front raw rest)
      (breaks : BreaksOff offset (offset + 1 + front.length) rest d) :
      Stuck depth offset (Ascii.openParen :: (front ++ rest)) d

/-- The first place where a query cannot be read. Everything in front of it can be. -/
def FirstDefect (source : Bytes) (d : Defect) : Prop :=
  ∃ es rest, source = textOf es ++ rest ∧ Reads rest 0 0 es ∧
    Stuck (depthBehind 0 es) (textOf es).length rest d

@[simp] theorem textOf_nil : textOf [] = [] := rfl

@[simp] theorem textOf_cons (e : Element) (es : List Element) :
    textOf (e :: es) = e.text ++ textOf es := rfl

@[simp] theorem depthBehind_nil (depth : Nat) : depthBehind depth [] = depth := rfl

@[simp] theorem depthBehind_cons (depth : Nat) (e : Element) (es : List Element) :
    depthBehind depth (e :: es) = depthBehind (e.behind depth) es := rfl

theorem extractionOf_cons (e : Element) (es : List Element) :
    extractionOf (e :: es) = (extractionOf es).prepend e.text e.form? := by
  cases e <;> rfl

theorem extractionOf_cons_structural (e : Element) (es : List Element) :
    (extractionOf (e :: es)).structural = e.structural ++ (extractionOf es).structural :=
  List.flatMap_cons

theorem extractionOf_cons_predicates (e : Element) (es : List Element) :
    (extractionOf (e :: es)).predicates = e.form?.toList ++ (extractionOf es).predicates := by
  rw [extractionOf_cons]
  cases e <;> rfl

/-! ## Reading up to the end or a defect -/

section Progress

variable {depth offset : Nat} {text : Bytes}

/-- At every byte an element stands, or reading stops. -/
theorem exists_stands_or_stuck (depth offset : Nat) (b : UInt8) (text : Bytes) :
    (∃ (e : Element) (rest : Bytes), b :: text = e.text ++ rest ∧ e.Stands depth offset rest) ∨
      ∃ d, Stuck depth offset (b :: text) d := by
  by_cases isComment : b = Ascii.semicolon
  · subst isComment
    obtain ⟨body, rest, rfl, line⟩ := exists_isRun (· ≠ Ascii.newline) text
    exact .inl ⟨.comment body, rest, rfl, .comment line⟩
  by_cases isString : b = Ascii.quote
  · subst isString
    by_cases closes : Closes text
    · obtain ⟨body, rest, value, rfl, string⟩ := closes
      exact .inl ⟨.string body, rest, rfl, .string string⟩
    · exact .inr ⟨_, .unclosed closes⟩
  -- A parenthesis stands alone unless it opens a form, and a form can fail in two ways.
  by_cases isForm : b = Ascii.openParen ∧ HashComes text
  · obtain ⟨rfl, opens⟩ := isForm
    obtain rfl | inside := Nat.eq_zero_or_pos depth
    · exact .inr ⟨_, .outside rfl opens⟩
    obtain ⟨front, raw, rest, rfl, reads, ⟨tail, rfl⟩ | ⟨d, breaks⟩⟩ :=
      exists_formFront offset opens
    · exact .inl ⟨.form raw (front ++ [Ascii.closeParen]), tail, by simp [Element.text],
        .form inside reads⟩
    · exact .inr ⟨d, .broken inside reads breaks⟩
  · exact .inl ⟨.byte b, text, rfl,
      .byte isComment isString fun paren opens => isForm ⟨paren, opens⟩⟩

theorem Element.text_ne_nil (e : Element) : e.text ≠ [] := by
  cases e <;> exact List.cons_ne_nil _ _

/-- **Every text can be read up to its end or a first defect.** -/
theorem exists_reads (depth offset : Nat) (text : Bytes) :
    ∃ es rest, text = textOf es ++ rest ∧ Reads rest depth offset es ∧
      (rest = [] ∨ ∃ d, Stuck (depthBehind depth es) (offset + (textOf es).length) rest d) := by
  -- An element is not empty, so what stands behind it is shorter.
  induction hn : text.length using Nat.strongRecOn generalizing depth offset text with
  | ind n ih =>
    subst hn
    cases text with
    | nil => exact ⟨[], [], rfl, .nil, .inl rfl⟩
    | cons b text =>
      obtain ⟨e, behind, split, first⟩ | stuck := exists_stands_or_stuck depth offset b text
      · have shorter : behind.length < (b :: text).length := by
          have := List.length_pos_iff.mpr e.text_ne_nil
          rw [split, List.length_append]
          omega
        obtain ⟨es, rest, rfl, reads, last⟩ :=
          ih _ shorter (e.behind depth) (offset + e.text.length) behind rfl
        refine ⟨e :: es, rest, by simp [split], .cons first reads, ?_⟩
        rwa [depthBehind_cons, textOf_cons, List.length_append, ← Nat.add_assoc]
      · exact ⟨[], _, rfl, .nil, .inr stuck⟩

end Progress

/-! ## One reading -/

/-- The element that a text begins with. -/
def frontElement (offset : Nat) : Bytes → Option Element
  | [] => none
  | b :: rest =>
    if b = Ascii.semicolon then some (.comment (rest.takeWhile (· ≠ Ascii.newline)))
    else if b = Ascii.quote then (stringBody rest).map fun body => .string (rest.take body.2)
    else if b = Ascii.openParen ∧ opensForm rest = true then
      (readForm offset rest).toOption.map fun form => .form form.1 (rest.take form.2)
    else some (.byte b)

section Uniqueness

variable {depth offset : Nat} {e e' : Element} {rest rest' : Bytes}

theorem Element.Stands.frontElement_eq (h : e.Stands depth offset rest) :
    frontElement offset (e.text ++ rest) = some e := by
  have quote : Ascii.quote ≠ Ascii.semicolon := by decide
  have paren : Ascii.openParen ≠ Ascii.semicolon ∧ Ascii.openParen ≠ Ascii.quote := by decide
  cases h with
  | comment line =>
    simp only [frontElement, Element.text, List.cons_append, if_true, line.takeWhile_eq]
  | string string => simp [frontElement, Element.text, quote, string.stringBody_append]
  | @form front _ raw inside reads =>
    have opens := opensForm_eq_true_iff.mpr (reads.hashComes (Ascii.closeParen :: rest))
    have read := reads.readForm_of_closeParen
    have body : (front ++ Ascii.closeParen :: rest).take (front.length + 1) =
        front ++ [Ascii.closeParen] := by
      rw [List.take_length_add_append]
      rfl
    simp only [frontElement, Element.text, List.cons_append, List.append_assoc, List.nil_append,
      paren, opens, read, body, if_false, and_self, if_true, Except.toOption, Option.map_some]
  | @byte b _ notComment notString notForm =>
    have plain : ¬ (b = Ascii.openParen ∧ opensForm rest = true) := by
      rintro ⟨isParen, opens⟩
      exact notForm isParen (opensForm_eq_true_iff.mp opens)
    simp only [frontElement, Element.text, List.cons_append, List.nil_append, notComment,
      notString, plain, if_false]

/-- Of all elements, only one stands at the front of a text. -/
theorem Element.Stands.unique (h : e.Stands depth offset rest) (h' : e'.Stands depth offset rest')
    (same : e.text ++ rest = e'.text ++ rest') : e = e' :=
  Option.some.inj (h.frontElement_eq.symm.trans (same ▸ h'.frontElement_eq))

/-- **No text can be read to its end in two ways.** -/
theorem Reads.unique {es es' : List Element} (h : Reads [] depth offset es)
    (h' : Reads [] depth offset es') (same : textOf es = textOf es') : es = es' := by
  induction h generalizing es' with
  | nil =>
    cases h' with
    | nil => rfl
    | @cons _ _ e es first tail =>
      exact absurd (List.append_eq_nil_iff.mp same.symm).1 e.text_ne_nil
  | @cons depth offset e es first tail ih =>
    cases h' with
    | nil => exact absurd (List.append_eq_nil_iff.mp same).1 e.text_ne_nil
    | cons first' tail' =>
      -- The elements in front are the same, so the texts behind them are.
      obtain rfl := first.unique first' (by simpa using same)
      rw [ih tail' (List.append_cancel_left same)]

end Uniqueness

/-! ## The pass -/

theorem prepend_prepend (e : Extraction) (front behind : Bytes) :
    (e.prepend behind none).prepend front none = e.prepend (front ++ behind) none := by
  simp [Extraction.prepend]

theorem map_prepend_prepend (read : Except Defect Extraction) (front behind : Bytes) :
    (read.map (·.prepend behind none)).map (·.prepend front none) =
      read.map (·.prepend (front ++ behind) none) := by
  cases read with
  | error d => rfl
  | ok e => exact congrArg Except.ok (prepend_prepend e front behind)

section Scanning

variable {depth offset : Nat} {rest : Bytes}

/-- Identifier bytes are passed one by one. -/
theorem scan_identifier (offset : Nat) {name : Bytes} (h : ∀ b ∈ name, isIdentifierByte b = true) :
    scan depth offset (name ++ rest) =
      (scan depth (offset + name.length) rest).map (·.prepend name none) := by
  induction name generalizing offset with
  | nil =>
    rw [List.nil_append, List.length_nil, Nat.add_zero]
    cases scan depth offset rest <;> rfl
  | cons b name ih =>
    have alone : b ∉ [Ascii.semicolon, Ascii.quote, Ascii.openParen, Ascii.openBracket,
        Ascii.closeParen, Ascii.closeBracket, Ascii.atSign] := by
      intro special
      have isWord := h b List.mem_cons_self
      simp only [List.mem_cons, List.not_mem_nil, or_false] at special
      rcases special with rfl | rfl | rfl | rfl | rfl | rfl | rfl <;>
        exact absurd isWord (by decide)
    have tail := ih (offset + 1) fun c hc => h c (List.mem_cons_of_mem b hc)
    rw [List.cons_append, scan_cons (.other alone), List.drop_zero, Nat.add_zero, tail,
      List.take_zero, map_prepend_prepend, List.length_cons, Nat.add_assoc, Nat.add_comm 1]
    rfl

/-- The name behind an at sign is passed at once, which comes to the same. -/
theorem scan_atSign :
    scan depth offset (Ascii.atSign :: rest) =
      (scan depth (offset + 1) rest).map (·.prepend [Ascii.atSign] none) := by
  obtain ⟨name, rest, rfl, word⟩ := exists_isRun isIdentifierByte rest
  rw [scan_cons .name, scan_identifier _ word.inside, map_prepend_prepend]
  simp only [word.takeWhile_eq, List.drop_left, List.take_left]
  rfl

/-- **The pass goes on behind an element.** -/
theorem Element.Stands.scan_append {e : Element} (h : e.Stands depth offset rest) :
    scan depth offset (e.text ++ rest) =
      (scan (e.behind depth) (offset + e.text.length) rest).map (·.prepend e.text e.form?) := by
  -- All elements but an at sign are the lexeme of a step, which ends where the element ends.
  have step (b : UInt8) (body : Bytes) (text : e.text = b :: body)
      (step : Step depth offset (body ++ rest) b ⟨body.length, e.form?, e.behind depth⟩) :
      scan depth offset (e.text ++ rest) =
        (scan (e.behind depth) (offset + e.text.length) rest).map (·.prepend e.text e.form?) := by
    rw [text, List.cons_append, scan_cons step]
    simp only [List.drop_left, List.take_left, List.length_cons, Nat.add_assoc, Nat.add_comm 1]
  cases h with
  | @comment body _ line =>
    have passed : Step depth offset (body ++ rest) Ascii.semicolon _ := .comment
    rw [line.takeWhile_eq] at passed
    exact step _ _ rfl passed
  | string string => exact step _ _ rfl (.string (string.stringBody_append rest))
  | @form front _ raw inside form =>
    refine step _ _ rfl (.form (opensForm_eq_true_iff.mpr ?_) inside ?_)
    · simpa using form.hashComes (Ascii.closeParen :: rest)
    · simpa using form.readForm_of_closeParen
  | @byte b _ notComment notString notForm =>
    by_cases isAt : b = Ascii.atSign
    · subst isAt
      exact scan_atSign
    refine step b [] rfl ?_
    by_cases opens : b = Ascii.openParen ∨ b = Ascii.openBracket
    · simp only [Element.behind, opens, if_true]
      rcases opens with rfl | rfl
      · exact .paren (Bool.eq_false_iff.mpr fun follows =>
          notForm rfl (opensForm_eq_true_iff.mp follows))
      · exact .bracket
    by_cases closes : b = Ascii.closeParen ∨ b = Ascii.closeBracket
    · simp only [Element.behind, opens, closes, if_false, if_true]
      exact .close closes
    · simp only [Element.behind, opens, closes, if_false]
      refine .other ?_
      simp only [List.mem_cons, List.not_mem_nil, or_false, not_or] at opens closes ⊢
      exact ⟨notComment, notString, opens.1, opens.2, closes.1, closes.2, isAt⟩

/-- The pass goes on behind a sequence of elements. -/
theorem Reads.scan_append {es : List Element} (h : Reads rest depth offset es) :
    scan depth offset (textOf es ++ rest) =
      (scan (depthBehind depth es) (offset + (textOf es).length) rest).map fun e =>
        ⟨(extractionOf es).structural ++ e.structural,
          (extractionOf es).predicates ++ e.predicates⟩ := by
  induction h with
  | @nil depth offset =>
    rw [textOf_nil, List.nil_append, List.length_nil, Nat.add_zero, depthBehind_nil]
    cases scan depth offset rest <;> rfl
  | @cons depth offset e es first tail ih =>
    rw [textOf_cons, List.append_assoc, first.scan_append, ih, depthBehind_cons, extractionOf_cons,
      List.length_append, Nat.add_assoc]
    cases scan _ _ rest with
    | error d => rfl
    | ok read => cases e <;> simp [Except.map, Extraction.prepend, Element.form?]

/-- The pass stops at a defect. -/
theorem Stuck.scan_eq {text : Bytes} {d : Defect} (h : Stuck depth offset text d) :
    scan depth offset text = .error d := by
  -- All three ways to stop are seen at the first byte.
  suffices ∃ b rest, text = b :: rest ∧ readLexeme depth offset b rest = .error d by
    obtain ⟨b, rest, rfl, stop⟩ := this
    rw [scan, stop]
  have quote : Ascii.quote ≠ Ascii.semicolon := by decide
  have paren : Ascii.openParen ≠ Ascii.semicolon ∧ Ascii.openParen ≠ Ascii.quote := by decide
  cases h with
  | unclosed never =>
    exact ⟨_, _, rfl, by simp [readLexeme, quote, stringBody_eq_none_iff.mpr never]⟩
  | outside outer opens =>
    exact ⟨_, _, rfl, by simp [readLexeme, paren, opensForm_eq_true_iff.mpr opens, outer]⟩
  | @broken _ rest _ _ inside form breaks =>
    have opens := opensForm_eq_true_iff.mpr (form.hashComes rest)
    have outer := Nat.pos_iff_ne_zero.mp inside
    exact ⟨_, _, rfl, by simp [readLexeme, paren, opens, outer, form.readForm_of_breaksOff breaks]⟩

end Scanning

/-! ## Taking a query apart -/

/-- A query that can be read to its end is taken apart into its elements. -/
theorem Reads.scan_eq {es : List Element} (h : Reads [] 0 0 es) :
    scan 0 0 (textOf es) = .ok (extractionOf es) := by
  have read := h.scan_append
  rw [List.append_nil, scan] at read
  simpa [Except.map] using read

theorem FirstDefect.scan_eq {source : Bytes} {d : Defect} (h : FirstDefect source d) :
    scan 0 0 source = .error d := by
  obtain ⟨es, rest, rfl, reads, stuck⟩ := h
  rw [reads.scan_append, Nat.zero_add, stuck.scan_eq]
  rfl

/-- A query is read to its end, or it has a first defect. -/
theorem exists_reads_or_firstDefect (source : Bytes) :
    (∃ es, source = textOf es ∧ Reads [] 0 0 es) ∨ ∃ d, FirstDefect source d := by
  obtain ⟨es, rest, rfl, reads, rfl | ⟨d, stuck⟩⟩ := exists_reads 0 0 source
  · exact .inl ⟨es, List.append_nil _, reads⟩
  · exact .inr ⟨d, es, rest, rfl, reads, by simpa using stuck⟩

theorem Reads.extract_eq {source : Bytes} {es : List Element} (h : Reads [] 0 0 es)
    (split : source = textOf es) : extract source = .ok (extractionOf es) := by
  rw [extract, split, h.scan_eq]
  rfl

theorem FirstDefect.extract_eq {source : Bytes} {d : Defect} (h : FirstDefect source d) :
    extract source = .error (d.report source) := by
  rw [extract, h.scan_eq]
  rfl

theorem extract_eq_ok_iff_reads {source : Bytes} {e : Extraction} :
    extract source = .ok e ↔
      ∃ es, source = textOf es ∧ Reads [] 0 0 es ∧ e = extractionOf es := by
  constructor
  · intro h
    obtain ⟨es, split, reads⟩ | ⟨d, first⟩ := exists_reads_or_firstDefect source
    · exact ⟨es, split, reads, Except.ok.inj (h.symm.trans (reads.extract_eq split))⟩
    · cases h.symm.trans first.extract_eq
  · rintro ⟨es, split, reads, rfl⟩
    exact reads.extract_eq split

theorem extract_eq_error_iff_firstDefect {source : Bytes} {err : QueryError} :
    extract source = .error err ↔ ∃ d, FirstDefect source d ∧ err = d.report source := by
  constructor
  · intro h
    obtain ⟨es, split, reads⟩ | ⟨d, first⟩ := exists_reads_or_firstDefect source
    · cases h.symm.trans (reads.extract_eq split)
    · exact ⟨d, first, Except.error.inj (h.symm.trans first.extract_eq)⟩
  · rintro ⟨d, first, rfl⟩
    exact first.extract_eq

end SyntaxForest.Query
