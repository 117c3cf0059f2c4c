import SyntaxForest.Proofs.Query.CheckedReaders
import SyntaxForest.Proofs.Query.EchoedLines
import SyntaxForest.Proofs.Query.Stripping

/-!
# The pass is safe on bytes

The pass moves over bytes, takes two of them behind a backslash, and blanks forms byte by byte. On a
query that is UTF-8 none of this cuts a character apart. A cursor that stands inside a character has
nothing to read there but the next byte. Whatever the pass cuts out begins and ends beside an ASCII
byte or at the end of the text, and a backslash is one, so that an escape takes the first byte of a
character and leaves the others to follow it.

## Main definitions

* `IsNameAt`: a name that stands in a query

## Main results

* `Element.Stands.valid_structural`: a text stays one when a form in it is blanked
* `Checked.loop_scanTurn_of_reads`: a run of the pass with its checks
* `Checked.extract_eq`: no check fails
* `pass_is_safe_on_bytes`: what holds of the texts, names and values that the pass takes
-/

namespace SyntaxForest.Query

open Utf8

/-! ## Blanked forms -/

/-- The text of a form, up to what stands behind its closing parenthesis. -/
theorem Element.text_form_append (raw : RawPredicate) (front rest : Bytes) :
    (form raw (front ++ [Ascii.closeParen])).text ++ rest =
      Ascii.openParen :: (front ++ Ascii.closeParen :: rest) := by
  rw [text, List.cons_append, List.append_assoc, List.singleton_append]

theorem Element.length_structural (e : Element) : e.structural.length = e.text.length := by
  rw [structural]
  split
  next => rfl
  next => exact length_blank _

/-- **A text stays one** when a form in it is blanked. -/
theorem Element.Stands.valid_structural {depth offset : Nat} {e : Element} {before rest : Bytes}
    (stands : e.Stands depth offset rest) (valid : Valid (before ++ (e.text ++ rest))) :
    Valid (before ++ (e.structural ++ rest)) := by
  cases stands with
  | @form text _ raw inside form =>
    -- The form begins and ends with a parenthesis, so what stands around it are texts.
    obtain ⟨front, starts⟩ := valid.split fun b hb => by cases hb; decide
    have blanks : ∀ b ∈ blank (Element.form raw (text ++ [Ascii.closeParen])).text, b < 0x80 :=
      fun b hb => lt_of_isBlank (isBlank_of_mem_blank hb)
    rw [Element.text_form_append] at starts
    have ends := starts.behind (a := Ascii.openParen :: text) (by decide)
    exact front.append_iff.mpr ((valid_append_iff blanks).mpr ends)
  | _ => exact valid

/-- A text stays one when all forms among its elements are blanked. -/
theorem Reads.valid_structural {depth offset : Nat} {es : List Element} {before rest : Bytes}
    (h : Reads rest depth offset es) (valid : Valid (before ++ (textOf es ++ rest))) :
    Valid (before ++ ((extractionOf es).structural ++ rest)) := by
  induction h generalizing before with
  | nil => exact valid
  | @cons depth offset e es first tail ih =>
    rw [textOf_cons, List.append_assoc] at valid
    have blanked := first.valid_structural valid
    rw [← List.append_assoc] at blanked
    rw [extractionOf_cons_structural, List.append_assoc, ← List.append_assoc]
    exact ih blanked

namespace Checked

/-! ## The pass -/

section Pass

variable {source before rest : Bytes} {depth offset : Nat} {e : Element}

/-- Whether a byte opens a form is seen in what stands behind it. -/
theorem opensFormAt_eq {b : UInt8} (valid : Valid source) (here : Ahead source offset (b :: rest)) :
    opensFormAt source offset b = .ok (decide (b = Ascii.openParen) && opensForm rest) := by
  rw [opensFormAt]
  split
  next paren =>
    subst paren
    -- A parenthesis is a character of its own, so what stands behind it can be cut out.
    have behind : Ahead source (offset + 1) (rest ++ []) := (List.append_nil rest).symm ▸ here.next
    have starts : Valid (rest ++ []) :=
      (List.append_nil rest).symm ▸ (valid_cons_iff (by decide)).mp (here.valid valid (by decide))
    rw [← here.next.end_eq, behind.cut_eq valid starts rfl, decide_eq_true rfl, Bool.true_and]
    rfl
  next other => rw [decide_eq_false other, Bool.false_and]

theorem opensFormAt_of_hashComes (valid : Valid source)
    (here : Ahead source offset (Ascii.openParen :: rest)) (opens : HashComes rest) :
    opensFormAt source offset Ascii.openParen = .ok true := by
  rw [opensFormAt_eq valid here, opensForm_eq_true_iff.mpr opens]
  rfl

/-- A piece of the structural text is blanked in its place. -/
theorem blankBetween_eq {text : Bytes} (valid : Valid (before ++ (text ++ rest)))
    (starts : Valid (text ++ rest)) (ends : Valid rest) :
    blankBetween (before ++ (text ++ rest)) before.length (before.length + text.length) =
      .ok (before ++ (blank text ++ rest)) := by
  have here : Ahead (before ++ (text ++ rest)) before.length (text ++ rest) := ⟨before, rfl, rfl⟩
  have behind : (before ++ (text ++ rest)).drop (before.length + text.length) = rest := by
    rw [← List.append_assoc, ← List.length_append, List.drop_left]
  rw [blankBetween, here.cut_eq valid starts ends, ok_bind, List.take_left, behind]
  rfl

/-- A turn that passes a single byte. -/
theorem scanTurn_of_byte {b : UInt8} (valid : Valid source)
    (here : Ahead source offset (b :: rest)) (p : Progress) (notComment : b ≠ Ascii.semicolon)
    (notString : b ≠ Ascii.quote) (notForm : b = Ascii.openParen → ¬ HashComes rest)
    (notAt : b ≠ Ascii.atSign) :
    scanTurn source offset p =
      .ok (.again (offset + 1) { p with depth := (Element.byte b).behind p.depth }) := by
  have opens : (decide (b = Ascii.openParen) && opensForm rest) = false := by
    apply Bool.eq_false_iff.mpr
    intro opens
    rw [Bool.and_eq_true, decide_eq_true_eq] at opens
    exact notForm opens.1 (opensForm_eq_true_iff.mp opens.2)
  rw [scanTurn, here.getElem?_cons]
  simp only [notComment, notString, if_false, opensFormAt_eq valid here, opens, ok_bind,
    Bool.false_eq_true, byteTurn, notAt, Bool.or_eq_true, decide_eq_true_eq, Element.behind]
  split_ifs <;> rfl

/-- Identifier bytes are passed one by one. -/
theorem loop_scanTurn_identifier {name : Bytes} (valid : Valid source)
    (word : ∀ b ∈ name, isIdentifierByte b = true) (here : Ahead source offset (name ++ rest))
    (p : Progress) :
    loop source.length (scanTurn source) offset p =
      loop source.length (scanTurn source) (offset + name.length) p := by
  -- None of these bytes means anything to the pass, so that each is a turn of its own.
  induction name generalizing offset with
  | nil => rfl
  | cons b name ih =>
    obtain ⟨isWord, later⟩ := List.forall_mem_cons.mp word
    have other {sign : UInt8} (special : isIdentifierByte sign = false) : b ≠ sign := by
      rintro rfl
      exact Bool.false_ne_true (special.symm.trans isWord)
    have notParen : b ≠ Ascii.openParen := other (by decide)
    have turn := scanTurn_of_byte valid here p (other (by decide)) (other (by decide))
      (fun paren => absurd paren notParen) (other (by decide))
    have same : (Element.byte b).behind p.depth = p.depth := by
      have notOpening : ¬ (b = Ascii.openParen ∨ b = Ascii.openBracket) :=
        not_or.mpr ⟨notParen, other (by decide)⟩
      have notClosing : ¬ (b = Ascii.closeParen ∨ b = Ascii.closeBracket) :=
        not_or.mpr ⟨other (by decide), other (by decide)⟩
      rw [Element.behind, if_neg notOpening, if_neg notClosing]
    rw [same] at turn
    rw [loop_of_again turn (Nat.lt_succ_self _) here.next.le_length, ih later here.next,
      List.length_cons, Nat.add_assoc, Nat.add_comm 1]

/-- The name behind an at sign is passed at once, which comes to the same. -/
theorem loop_scanTurn_atSign (valid : Valid source)
    (here : Ahead source offset (Ascii.atSign :: rest)) (p : Progress) :
    loop source.length (scanTurn source) offset p =
      loop source.length (scanTurn source) (offset + 1) p := by
  obtain ⟨name, rest, rfl, word⟩ := exists_isRun isIdentifierByte rest
  have starts := (valid_cons_iff (by decide)).mp (here.valid valid (by decide))
  have turn : scanTurn source offset p = .ok (.again (offset + 1 + name.length) p) := by
    rw [scanTurn, here.getElem?_cons]
    simp only [opensFormAt_eq valid here, ok_bind, byteTurn,
      readName_eq valid word here.next starts]
    rfl
  -- The bytes of the name, read one by one, lead to the same offset.
  rw [loop_of_again turn (by omega) here.next.behind.le_length,
    ← loop_scanTurn_identifier valid word.inside here.next]

/-- **A turn of the pass** reads an element, or an at sign with the name behind it. -/
theorem loop_scanTurn_append (valid : Valid source) (stands : e.Stands depth before.length rest)
    (here : Ahead source before.length (e.text ++ rest))
    (blanked : Valid (before ++ (e.text ++ rest))) (predicates : List RawPredicate) :
    loop source.length (scanTurn source) before.length
        ⟨depth, before ++ (e.text ++ rest), predicates⟩ =
      loop source.length (scanTurn source) (before.length + e.text.length)
        ⟨e.behind depth, before ++ (e.structural ++ rest), predicates ++ e.form?.toList⟩ := by
  have paren : Ascii.openParen ≠ Ascii.semicolon ∧ Ascii.openParen ≠ Ascii.quote := by decide
  have quote : Ascii.quote ≠ Ascii.semicolon := by decide
  have inside := here.behind.le_length
  have forward : before.length < before.length + e.text.length :=
    Nat.lt_add_of_pos_right (List.length_pos_iff.mpr e.text_ne_nil)
  cases stands with
  | @comment body _ line =>
    simp only [Element.form?, Option.toList_none, List.append_nil]
    refine loop_of_again ?_ forward inside
    rw [scanTurn, Ahead.getElem?_cons here]
    simp only [if_true, skipComment_eq line here]
    rfl
  | @string body value _ string =>
    have starts := Ahead.valid here valid (by decide)
    simp only [Element.form?, Option.toList_none, List.append_nil]
    refine loop_of_again ?_ forward inside
    rw [scanTurn, Ahead.getElem?_cons here]
    simp only [quote, if_false, if_true, readString_of_stringText string here starts]
    rfl
  | @form front _ raw deep form =>
    have whole := Element.text_form_append raw front rest
    rw [whole] at here
    -- The structural text is cut where the query is, in front of ASCII bytes and behind them.
    have starts := here.valid valid (by decide)
    have ends : Valid rest := starts.behind (a := Ascii.openParen :: front) (by decide)
    have blanking := blankBetween_eq blanked (whole ▸ starts) ends
    have opens := opensFormAt_of_hashComes valid here (form.hashComes (Ascii.closeParen :: rest))
    have read := readForm_of_closeParen valid form here.next
      ((valid_cons_iff (by decide)).mp starts)
    have place : before.length + 1 + (front.length + 1) =
        before.length + (Element.form raw (front ++ [Ascii.closeParen])).text.length := by
      simp only [Element.text, List.length_cons, List.length_append, List.length_nil]
      omega
    refine loop_of_again ?_ forward inside
    rw [scanTurn, here.getElem?_cons]
    simp only [paren, if_false, opens, ok_bind, if_true, formTurn, Nat.pos_iff_ne_zero.mp deep,
      read,
      place, blanking]
    rfl
  | @byte b _ notComment notString notForm =>
    -- Behind an at sign the pass reads on, but a turn for each byte would bring it as far.
    simp only [Element.form?, Option.toList_none, List.append_nil]
    by_cases isAt : b = Ascii.atSign
    · subst isAt
      exact loop_scanTurn_atSign valid here _
    · exact loop_of_again (scanTurn_of_byte valid here _ notComment notString notForm isAt) forward
        inside

/-- **A run of the pass** over elements blanks the forms among them. -/
theorem loop_scanTurn_of_reads {es : List Element} (valid : Valid source)
    (h : Reads rest depth offset es) (place : before.length = offset)
    (here : Ahead source offset (textOf es ++ rest))
    (blanked : Valid (before ++ (textOf es ++ rest))) (predicates : List RawPredicate) :
    loop source.length (scanTurn source) offset
        ⟨depth, before ++ (textOf es ++ rest), predicates⟩ =
      loop source.length (scanTurn source) (offset + (textOf es).length)
        ⟨depthBehind depth es, before ++ ((extractionOf es).structural ++ rest),
          predicates ++ (extractionOf es).predicates⟩ := by
  -- What is blanked stands in front of the cursor, and is as long as what stood there.
  induction h generalizing before predicates with
  | nil =>
    rw [textOf_nil, List.length_nil, Nat.add_zero, depthBehind_nil]
    exact congrArg _ (congrArg _ (List.append_nil predicates).symm)
  | @cons depth offset e es first tail ih =>
    subst place
    rw [textOf_cons, List.append_assoc] at here blanked
    have stays := first.valid_structural blanked
    rw [← List.append_assoc] at stays
    have place : (before ++ e.structural).length = before.length + e.text.length := by
      rw [List.length_append, e.length_structural]
    have run := ih place here.behind stays (predicates ++ e.form?.toList)
    rw [textOf_cons, List.append_assoc, loop_scanTurn_append valid first here blanked,
      ← List.append_assoc before, run, depthBehind_cons, extractionOf_cons_structural,
      extractionOf_cons_predicates, List.length_append, Nat.add_assoc]
    simp only [List.append_assoc]

/-- The pass reports a defect where it is stuck. -/
theorem loop_scanTurn_of_stuck {p : Progress} {text : Bytes} {d : Defect} (valid : Valid source)
    (h : Stuck p.depth offset text d) (here : Ahead source offset text) :
    loop source.length (scanTurn source) offset p = .error (.defect d) := by
  have paren : Ascii.openParen ≠ Ascii.semicolon ∧ Ascii.openParen ≠ Ascii.quote := by decide
  have quote : Ascii.quote ≠ Ascii.semicolon := by decide
  -- The turn that begins at the element reports its defect.
  apply loop_of_error
  cases h with
  | unclosed never =>
    rw [scanTurn, here.getElem?_cons]
    simp only [quote, if_false, if_true, readString_of_not_closes never here]
    rfl
  | outside outer opens =>
    rw [scanTurn, here.getElem?_cons]
    simp only [paren, if_false, opensFormAt_of_hashComes valid here opens, ok_bind, if_true,
      formTurn, outer]
  | @broken front rest raw _ inside form breaks =>
    have starts := (valid_cons_iff (by decide)).mp (here.valid valid (by decide))
    have read := readForm_of_breaksOff valid form breaks here.next starts
    rw [scanTurn, here.getElem?_cons]
    simp only [paren, if_false, opensFormAt_of_hashComes valid here (form.hashComes rest), ok_bind,
      if_true, formTurn, Nat.pos_iff_ne_zero.mp inside, read, error_bind]

theorem scan_of_reads {es : List Element} (valid : Valid (textOf es)) (h : Reads [] 0 0 es) :
    scan (textOf es) = .ok (extractionOf es) := by
  have here : Ahead (textOf es) 0 (textOf es ++ []) := ⟨[], (List.append_nil _).symm, rfl⟩
  have whole : Valid ([] ++ (textOf es ++ [])) := by rwa [List.append_nil]
  have blanked := h.valid_structural whole
  have run := loop_scanTurn_of_reads valid h rfl here whole []
  simp only [List.append_nil, List.nil_append] at blanked run
  rw [scan, run]
  apply loop_of_leave
  rw [scanTurn, here.behind.getElem?_nil]
  simp only [spell_eq blanked]
  rfl

theorem scan_of_firstDefect {d : Defect} (valid : Valid source) (h : FirstDefect source d) :
    scan source = .error (.defect d) := by
  obtain ⟨es, rest, rfl, reads, stuck⟩ := h
  have here : Ahead (textOf es ++ rest) 0 (textOf es ++ rest) := ⟨[], rfl, rfl⟩
  -- The elements in front of the defect are read, and there the pass is stuck.
  have whole : Valid ([] ++ (textOf es ++ rest)) := valid
  have run := loop_scanTurn_of_reads valid reads rfl here whole []
  rw [← Nat.zero_add (textOf es).length] at stuck
  rw [List.nil_append, List.nil_append] at run
  rw [scan, run]
  exact loop_scanTurn_of_stuck valid stuck here.behind

/-- The line that a report echoes is cut out between characters. -/
theorem report_eq (valid : Valid source) (d : Defect) :
    report source d = .ok (d.report source) := by
  obtain ⟨before, rest, rfl, front, behind, column, -⟩ :=
    QueryError.exists_lineAt valid d.offset
  -- Counting the column back from the offset leads to the start of its line.
  have start : min d.offset (before ++ rest).length - (pointAt (before ++ rest) d.offset).column =
      before.length := by
    omega
  have here : Ahead (before ++ rest) before.length (rest ++ []) := ⟨before, by simp, rfl⟩
  have line := here.cut_eq valid (by simpa using behind) rfl
  rw [report, QueryError.locate_eq_pointAt, start, List.length_append, line]
  rfl

/-- **No check fails**, and the pass with its checks comes to what the pass comes to. -/
theorem extract_eq (valid : Valid source) :
    Checked.extract source = .ok (Query.extract source) := by
  obtain ⟨es, split, reads⟩ | ⟨d, first⟩ := exists_reads_or_firstDefect source
  · rw [Checked.extract, reads.extract_eq split]
    subst split
    rw [scan_of_reads valid reads]
  · rw [Checked.extract, first.extract_eq, scan_of_firstDefect valid first]
    simp only [report_eq valid]
    rfl

end Pass

end Checked

/-! ## Names and values -/

/-- The name stands in the query at an offset, where it is cut out between characters. -/
structure IsNameAt (source : Bytes) (offset : Nat) (name : Bytes) : Prop where
  /-- It is not empty. -/
  ne_nil : name ≠ []
  /-- Its bytes are identifier bytes. -/
  inside : ∀ b ∈ name, isIdentifierByte b = true
  /-- It is a piece of the query. -/
  slice?_eq : slice? source offset (offset + name.length) = some name

section Names

variable {source : Bytes} {raw : RawPredicate} {e : Extraction}

/-- The operator of a form is a name in the query. -/
theorem exists_isNameAt_of_operator (valid : Valid source) (extracted : extract source = .ok e)
    (hraw : raw ∈ e.predicates) {name : Bytes} (named : raw.operator = some name) :
    ∃ offset, raw.offset < offset ∧ IsNameAt source offset name := by
  obtain ⟨before, front, behind, split, form⟩ := exists_formFront_of_mem extracted hraw
  obtain @⟨blanks, operator, body, run, _, arguments, isBlank, word, -, -⟩ := form
  -- No operator is told for an empty one.
  obtain ⟨ne_nil, rfl⟩ : operator ≠ [] ∧ operator = name := by
    split at named
    next => cases named
    next ne_nil => exact ⟨ne_nil, Option.some.inj named⟩
  simp only [List.append_assoc, List.cons_append] at split
  have here : Checked.Ahead source before.length (Ascii.openParen ::
      (blanks ++ Ascii.hash :: (operator ++ (body ++ (run ++ Ascii.closeParen :: behind))))) :=
    ⟨before, split, rfl⟩
  -- The operator stands between the hash sign and the byte that ends its run.
  have behindHash := (here.valid valid (by decide)).behind
    (a := Ascii.openParen :: blanks) (by decide)
  refine ⟨_, ?_, ne_nil, word.inside, here.next.behind.next.slice?_eq valid behindHash
    (word.valid_of_isIdentifierByte behindHash)⟩
  show before.length < _
  omega

/-- The name of a capture is a name in the query, at its offset. -/
theorem isNameAt_of_capture (valid : Valid source) (extracted : extract source = .ok e)
    (hraw : raw ∈ e.predicates) {name : Bytes} {offset : Nat}
    (ha : .capture name offset ∈ raw.arguments) : IsNameAt source offset name := by
  obtain ⟨before, word, behind, split, stands, cut⟩ := standsIn_of_mem extracted hraw ha
  have starts := cut valid
  cases stands with
  | capture ne_nil word =>
    have here : Checked.Ahead source before.length (Ascii.atSign :: (name ++ behind)) :=
      ⟨before, split, rfl⟩
    have behindSign := (valid_cons_iff (by decide)).mp starts
    exact ⟨ne_nil, word.inside, here.next.slice?_eq valid behindSign
      (word.valid_of_isIdentifierByte behindSign)⟩

/-- The value of a string or a bare word is a text. -/
theorem valid_of_literal (valid : Valid source) (extracted : extract source = .ok e)
    (hraw : raw ∈ e.predicates) {value : Bytes} {offset : Nat}
    (ha : .literal value offset ∈ raw.arguments) : Valid value := by
  obtain ⟨before, word, behind, split, stands, cut⟩ := standsIn_of_mem extracted hraw ha
  have starts := cut valid
  have ends := stands.valid starts
  cases stands with
  | string string =>
    exact string.valid_value (((valid_cons_iff (by decide)).mp starts).of_append ends)
  | word ne_nil word => exact starts.of_append ends

/-- The structural text of a query is a text. -/
theorem valid_structural (valid : Valid source) (extracted : extract source = .ok e) :
    Valid e.structural := by
  obtain ⟨es, rfl, reads, rfl⟩ := extract_eq_ok_iff_reads.mp extracted
  have whole : Valid ([] ++ (textOf es ++ [])) := by rwa [List.append_nil]
  have blanked := reads.valid_structural whole
  rwa [List.append_nil] at blanked

end Names

/-- **The pass is safe on bytes.** For every query that is UTF-8, the pass with its checks comes to
what the pass comes to, so no check fails: every turn of every loop consumes a byte or ends the
loop, every piece that is cut out lies in the query between two characters, and no tolerant reading
replaces anything, of a string or of the structural text.

If the query is taken apart, its structural text and the values of the strings among the arguments
are UTF-8, also where a backslash stands before a character of several bytes. Operators and capture
names are pieces of the query that consist of identifier bytes. -/
theorem pass_is_safe_on_bytes {source : Bytes} (valid : Valid source) :
    Checked.extract source = .ok (extract source) ∧
    ∀ e, extract source = .ok e →
      (Valid e.structural ∧ Bytes.ofText e.structural.toText = e.structural) ∧
      ∀ raw ∈ e.predicates,
        (∀ name, raw.operator = some name →
          ∃ offset, raw.offset < offset ∧ IsNameAt source offset name) ∧
        (∀ name offset, .capture name offset ∈ raw.arguments → IsNameAt source offset name) ∧
        ∀ value offset, .literal value offset ∈ raw.arguments →
          Valid value ∧ Bytes.ofText value.toText = value := by
  refine ⟨Checked.extract_eq valid, ?_⟩
  intro e extracted
  have structural := valid_structural valid extracted
  refine ⟨⟨structural, structural.ofText_toText⟩, ?_⟩
  intro raw hraw
  refine ⟨?_, ?_, ?_⟩
  · intro name named
    exact exists_isNameAt_of_operator valid extracted hraw named
  · intro name offset ha
    exact isNameAt_of_capture valid extracted hraw ha
  · intro value offset ha
    have text := valid_of_literal valid extracted hraw ha
    exact ⟨text, text.ofText_toText⟩

/-- A backslash before a character of two bytes takes the first of them, and the string is the
character. -/
theorem pass_is_safe_on_bytes_of_escaped_character :
    ∃ source e, source = Bytes.ofText "((x) @a (#eq? @a \"\\é\"))" ∧ Valid source ∧
      e = ⟨Bytes.ofText "((x) @a                )",
        [⟨8, some (Bytes.ofText "eq?"), [.capture (Bytes.ofText "a") 15,
          .literal (Bytes.ofText "é") 17]⟩]⟩ ∧
      Checked.extract source = .ok (.ok e) ∧ Valid e.structural ∧
      (∃ offset, 8 < offset ∧ IsNameAt source offset (Bytes.ofText "eq?")) ∧
      IsNameAt source 15 (Bytes.ofText "a") ∧
      Bytes.ofText (Bytes.ofText "é").toText = Bytes.ofText "é" := by
  have extracted : extract (Bytes.ofText "((x) @a (#eq? @a \"\\é\"))") =
      .ok ⟨Bytes.ofText "((x) @a                )",
        [⟨8, some (Bytes.ofText "eq?"), [.capture (Bytes.ofText "a") 15,
          .literal (Bytes.ofText "é") 17]⟩]⟩ := by
    decide +kernel
  have valid : Valid (Bytes.ofText "((x) @a (#eq? @a \"\\é\"))") := by decide +kernel
  obtain ⟨checked, safe⟩ := pass_is_safe_on_bytes valid
  obtain ⟨structural, forms⟩ := safe _ extracted
  obtain ⟨operators, captures, values⟩ := forms _ List.mem_cons_self
  exact ⟨_, _, rfl, valid, rfl, extracted ▸ checked, structural.1, operators _ rfl,
    captures _ _ List.mem_cons_self,
    (values _ 17 (List.mem_cons_of_mem _ List.mem_cons_self)).2⟩

/-- On other bytes a check can fail: here the string holds half a character. -/
example : Checked.extract [Ascii.quote, 0xC3, Ascii.quote] = .error .fault := by decide +kernel

end SyntaxForest.Query
