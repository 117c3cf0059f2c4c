import Mathlib.Data.List.Basic
import SyntaxForest.Proofs.Query.Reading

/-!
# Printed predicate forms

Predicate forms are written with a space before each argument, captures behind an at sign, and
strings between quotes, where a backslash stands before every quote and every backslash. Reading
what was written gives back the forms, each with the offset where it stands. Nothing inside a string
is taken for a quote, a comment, a bracket or a form.

## Main definitions

* `PlainArgument`, `PlainForm`: arguments and forms without a place in a text
* `PlainForm.print`, `printQuery`: how they are written
* `PlainForm.placed`, `placeForms`: the forms with the offsets where they are written
* `PlainForm.WrittenIn`: the offsets of a form are those of its bytes in a text

## Main results

* `stringBody_escape`: an escaped string reads as the string
* `readArguments_print`, `readForm_print`: written arguments and forms read as such
* `placeForms_writtenIn`: every form is written where it is placed
* `extract_printQuery`: a written query is taken apart into the forms written into it
-/

namespace SyntaxForest.Query

/-! ## Forms without a place -/

/-- A name of at least one identifier byte. -/
structure Identifier where
  /-- The bytes of the name. -/
  bytes : Bytes
  /-- There is one. -/
  ne_nil : bytes ≠ []
  /-- They are identifier bytes. -/
  isIdentifier : ∀ b ∈ bytes, isIdentifierByte b = true

/-- An argument without a place in a text. -/
inductive PlainArgument where
  /-- A capture. -/
  | capture (name : Identifier)
  /-- A string of any bytes. -/
  | literal (value : Bytes)

/-- A form without a place in a text. -/
structure PlainForm where
  /-- The operator. -/
  operator : Identifier
  /-- The arguments, in order. -/
  arguments : List PlainArgument

/-! ## Printing -/

/-- A string as it stands between quotes: a backslash stands before quotes and backslashes. -/
def escape : Bytes → Bytes
  | [] => []
  | b :: rest =>
    if b = Ascii.quote ∨ b = Ascii.backslash then Ascii.backslash :: b :: escape rest
    else b :: escape rest

namespace PlainArgument

/-- The byte that an argument begins with. -/
def sign : PlainArgument → UInt8
  | capture _ => Ascii.atSign
  | literal _ => Ascii.quote

/-- What is written behind that byte. -/
def body : PlainArgument → Bytes
  | capture name => name.bytes
  | literal value => escape value ++ [Ascii.quote]

/-- An argument as it is written. -/
def print (a : PlainArgument) : Bytes := a.sign :: a.body

/-- The argument as it is written at an offset. A capture has the offset behind its at sign. -/
def placed (offset : Nat) : PlainArgument → Argument
  | capture name => .capture name.bytes (offset + 1)
  | literal value => .literal value offset

end PlainArgument

/-- Arguments as they are written, each behind a space. -/
def printArguments (arguments : List PlainArgument) : Bytes :=
  arguments.flatMap fun a => Ascii.space :: a.print

@[simp] theorem printArguments_nil : printArguments [] = [] := rfl

@[simp] theorem printArguments_cons (a : PlainArgument) (arguments : List PlainArgument) :
    printArguments (a :: arguments) =
      Ascii.space :: a.sign :: (a.body ++ printArguments arguments) := rfl

/-- The arguments as they are written from an offset on, each behind a space. -/
def placeArguments (offset : Nat) : List PlainArgument → List Argument
  | [] => []
  | a :: rest => a.placed (offset + 1) :: placeArguments (offset + 1 + a.print.length) rest

namespace PlainForm

/-- What is written behind a form's parenthesis. -/
def body (f : PlainForm) : Bytes :=
  Ascii.hash :: (f.operator.bytes ++ (printArguments f.arguments ++ [Ascii.closeParen]))

/-- The operator and the arguments of a form, in front of what is written behind it. -/
theorem body_append (f : PlainForm) (rest : Bytes) :
    f.body ++ rest = Ascii.hash ::
      (f.operator.bytes ++ (printArguments f.arguments ++ Ascii.closeParen :: rest)) := by
  simp [body]

/-- A form as it is written. -/
def print (f : PlainForm) : Bytes := Ascii.openParen :: f.body

/-- The form as it is written at an offset. -/
def placed (offset : Nat) (f : PlainForm) : RawPredicate :=
  ⟨offset, some f.operator.bytes,
    placeArguments (offset + 2 + f.operator.bytes.length) f.arguments⟩

end PlainForm

/-- The forms as they are written from an offset on, with a space between two of them. -/
def placeForms (offset : Nat) : List PlainForm → List RawPredicate
  | [] => []
  | f :: rest => f.placed offset :: placeForms (offset + f.print.length + 1) rest

/-- Texts with a space between two of them. -/
def spaced (texts : List Bytes) : Bytes := [Ascii.space].intercalate texts

/-- A query with one pattern and the forms in it, and some spaces before it closes. -/
def printQuery (forms : List PlainForm) (spaces : Nat) : Bytes :=
  Bytes.ofText "((x) " ++ spaced (forms.map PlainForm.print) ++
    List.replicate spaces Ascii.space ++ Bytes.ofText ")"

/-- The printed query with white space in place of the forms. -/
def printStripped (forms : List PlainForm) (spaces : Nat) : Bytes :=
  Bytes.ofText "((x) " ++ spaced (forms.map fun f => blank f.print) ++
    List.replicate spaces Ascii.space ++ Bytes.ofText ")"

/-! ## Reading arguments -/

theorem stringBody_escape (value rest : Bytes) :
    stringBody (escape value ++ Ascii.quote :: rest) =
      some (value, (escape value).length + 1) := by
  induction value with
  | nil => simp [escape]
  | cons b value ih =>
    by_cases special : b = Ascii.quote ∨ b = Ascii.backslash
    · -- Of the bytes with an escape, these two stand for themselves.
      have same : unescape b = b := by rcases special with rfl | rfl <;> decide
      simp [escape, special, ih, same]
    · have plain := not_or.mp special
      simp [escape, special, stringBody_cons plain.1 plain.2, ih]

/-- The text begins with no identifier byte. -/
def StopsIdentifier (text : Bytes) : Prop := ∀ b, text.head? = some b → isIdentifierByte b = false

theorem stopsIdentifier_printArguments (arguments : List PlainArgument) (rest : Bytes) :
    StopsIdentifier (printArguments arguments ++ Ascii.closeParen :: rest) := by
  intro b hb
  cases arguments with
  | nil =>
    obtain rfl : Ascii.closeParen = b := Option.some.inj hb
    decide
  | cons a arguments =>
    obtain rfl : Ascii.space = b := Option.some.inj hb
    decide

theorem PlainArgument.sign_ne_closeParen (a : PlainArgument) : a.sign ≠ Ascii.closeParen := by
  cases a with
  | capture => exact (by decide : Ascii.atSign ≠ Ascii.closeParen)
  | literal => exact (by decide : Ascii.quote ≠ Ascii.closeParen)

/-- Nothing but the space is skipped in front of an argument. -/
theorem PlainArgument.triviaLength_sign (a : PlainArgument) (rest : Bytes) :
    triviaLength false (Ascii.space :: a.sign :: rest) = 1 := by
  cases a <;> rfl

/-- A written argument reads as the argument where no identifier byte follows. -/
theorem readArgument_print (offset : Nat) (a : PlainArgument) {rest : Bytes}
    (stops : StopsIdentifier rest) :
    readArgument offset a.sign (a.body ++ rest) = .ok (a.placed offset, a.body.length) := by
  cases a with
  | capture name =>
    have read := takeWhile_append_boundary name.isIdentifier stops
    simp only [readArgument, PlainArgument.sign, PlainArgument.body, PlainArgument.placed, if_true,
      read]
    split
    next none => exact absurd none name.ne_nil
    next => rfl
  | literal value =>
    have notAt : Ascii.quote ≠ Ascii.atSign := by decide
    simp [readArgument, PlainArgument.sign, PlainArgument.body, PlainArgument.placed, notAt,
      stringBody_escape]

/-- Written arguments read as the arguments. -/
theorem readArguments_print (start offset : Nat) (arguments : List PlainArgument) (rest : Bytes) :
    readArguments start offset (printArguments arguments ++ Ascii.closeParen :: rest) =
      .ok (placeArguments offset arguments, (printArguments arguments).length + 1) := by
  -- The induction is on the arguments, with the offset moving behind each of them.
  induction arguments generalizing offset with
  | nil => exact readArguments_of_closeParen rfl
  | cons a arguments ih =>
    have first := readArgument_print (offset + 1) a (stopsIdentifier_printArguments arguments rest)
    have tail := ih (offset + 1 + 1 + a.body.length)
    have trivia := a.triviaLength_sign (a.body ++ (printArguments arguments ++
      Ascii.closeParen :: rest))
    rw [printArguments_cons, List.cons_append, List.cons_append, List.append_assoc,
      readArguments_of_readArgument (by rw [trivia]; rfl) a.sign_ne_closeParen
        (by rw [trivia]; exact first), trivia, List.drop_left, tail]
    simp only [Except.map, placeArguments, PlainArgument.print, List.length_append,
      List.length_cons, Except.ok.injEq, Prod.mk.injEq, List.cons.injEq, true_and]
    constructor
    · congr 1
      omega
    · omega

/-! ## Reading forms -/

/-- A written form reads as the form. -/
theorem readForm_print (offset : Nat) (f : PlainForm) (rest : Bytes) :
    readForm offset (f.body ++ rest) = .ok (f.placed offset, f.body.length) := by
  -- The operator ends at the space of the first argument or at the closing parenthesis.
  have operator : (f.operator.bytes ++
      (printArguments f.arguments ++ Ascii.closeParen :: rest)).takeWhile isIdentifierByte =
      f.operator.bytes :=
    takeWhile_append_boundary f.operator.isIdentifier (stopsIdentifier_printArguments _ _)
  have opening : triviaLength false (f.body ++ rest) = 0 := rfl
  have behind : (f.body ++ rest).drop (0 + 1 + f.operator.bytes.length) =
      printArguments f.arguments ++ Ascii.closeParen :: rest := by
    rw [f.body_append, Nat.zero_add, Nat.add_comm, List.drop_succ_cons, List.drop_left]
  have arguments := readArguments_print offset (offset + 2 + f.operator.bytes.length)
    f.arguments rest
  have width : f.body.length =
      0 + 1 + f.operator.bytes.length + ((printArguments f.arguments).length + 1) := by
    simp only [PlainForm.body, List.length_cons, List.length_append, List.length_nil]
    omega
  have start : offset + 1 + (0 + 1 + f.operator.bytes.length) =
      offset + 2 + f.operator.bytes.length := by
    omega
  have word : (f.body ++ rest).drop (0 + 1) = f.operator.bytes ++
      (printArguments f.arguments ++ Ascii.closeParen :: rest) := by
    rw [f.body_append]
    rfl
  simp only [readForm, opening, word, operator, behind, start, arguments, f.operator.ne_nil,
    if_false, PlainForm.placed, width]

/-- A written form opens as one. -/
theorem opensForm_print (f : PlainForm) (rest : Bytes) : opensForm (f.body ++ rest) = true := rfl

/-! ## The pass over a printed query -/

section Scanning

variable {depth offset : Nat} {rest : Bytes} {e : Extraction}

theorem scan_form (f : PlainForm) (inside : 0 < depth)
    (tail : scan depth (offset + f.print.length) rest = .ok e) :
    scan depth offset (f.print ++ rest) =
      .ok ⟨blank f.print ++ e.structural, f.placed offset :: e.predicates⟩ := by
  have step : Step depth offset (f.body ++ rest) Ascii.openParen
      ⟨f.body.length, some (f.placed offset), depth⟩ :=
    .form (opensForm_print f rest) inside (readForm_print offset f rest)
  have next : offset + 1 + f.body.length = offset + f.print.length := by
    simp only [PlainForm.print, List.length_cons]
    omega
  have scanned := scan_cons_eq_ok (e := e) step (by rw [next, List.drop_left]; exact tail)
  rw [List.take_left] at scanned
  exact scanned

theorem scan_space (tail : scan depth (offset + 1) rest = .ok e) :
    scan depth offset (Ascii.space :: rest) = .ok ⟨Ascii.space :: e.structural, e.predicates⟩ :=
  scan_cons_eq_ok (.other (by decide)) tail

theorem scan_spaces (n : Nat) (tail : scan depth (offset + n) rest = .ok e) :
    scan depth offset (List.replicate n Ascii.space ++ rest) =
      .ok ⟨List.replicate n Ascii.space ++ e.structural, e.predicates⟩ := by
  induction n generalizing offset with
  | zero => exact tail
  | succ n ih => exact scan_space (ih (by rw [Nat.add_assoc, Nat.add_comm 1]; exact tail))

@[simp] theorem spaced_nil : spaced [] = [] := rfl

@[simp] theorem spaced_singleton (text : Bytes) : spaced [text] = text := by
  simp [spaced]

@[simp] theorem spaced_cons_cons (text next : Bytes) (texts : List Bytes) :
    spaced (text :: next :: texts) = text ++ Ascii.space :: spaced (next :: texts) := by
  simp [spaced]

/-- Forms with a space between two of them read as the forms. -/
theorem scan_forms (forms : List PlainForm) (inside : 0 < depth)
    (tail : scan depth (offset + (spaced (forms.map PlainForm.print)).length) rest = .ok e) :
    scan depth offset (spaced (forms.map PlainForm.print) ++ rest) =
      .ok ⟨spaced (forms.map fun f => blank f.print) ++ e.structural,
        placeForms offset forms ++ e.predicates⟩ := by
  induction forms generalizing offset with
  | nil => exact tail
  | cons f forms ih =>
    cases forms with
    | nil =>
      simp only [List.map_cons, List.map_nil, spaced_singleton] at tail ⊢
      exact scan_form f inside tail
    | cons g forms =>
      -- Behind the form stands a space, and behind the space stand the forms that are left.
      simp only [List.map_cons, spaced_cons_cons, List.length_append, List.length_cons,
        List.append_assoc, List.cons_append] at ih tail ⊢
      refine scan_form f inside (scan_space (ih ?_))
      rw [← tail]
      congr 1
      omega

end Scanning

/-- What is written before the forms is read as two brackets with a pattern behind them. -/
theorem scan_opening {rest : Bytes} {e : Extraction} (tail : scan 1 5 rest = .ok e) :
    scan 0 0 (Bytes.ofText "((x) " ++ rest) =
      .ok ⟨Bytes.ofText "((x) " ++ e.structural, e.predicates⟩ := by
  have bytes : Bytes.ofText "((x) " =
      [Ascii.openParen, Ascii.openParen, 120, Ascii.closeParen, Ascii.space] := by
    decide +kernel
  -- The bytes are put in front of the tail one by one, the last one first.
  have behind : scan 2 3 (Ascii.closeParen :: Ascii.space :: rest) =
      .ok ⟨Ascii.closeParen :: Ascii.space :: e.structural, e.predicates⟩ :=
    scan_cons_eq_ok (.close (.inl rfl)) (scan_space tail)
  have name : scan 2 2 (120 :: Ascii.closeParen :: Ascii.space :: rest) =
      .ok ⟨120 :: Ascii.closeParen :: Ascii.space :: e.structural, e.predicates⟩ :=
    scan_cons_eq_ok (.other (by decide)) behind
  have inner : scan 1 1 (Ascii.openParen :: 120 :: Ascii.closeParen :: Ascii.space :: rest) =
      .ok ⟨Ascii.openParen :: 120 :: Ascii.closeParen :: Ascii.space :: e.structural,
        e.predicates⟩ :=
    scan_cons_eq_ok (.paren rfl) name
  rw [bytes]
  exact scan_cons_eq_ok (.paren rfl) inner

/-! ## Places in the printed query -/

/-- `read` is the argument as it is written somewhere in the text. -/
def PlainArgument.WrittenIn (text : Bytes) (a : PlainArgument) (read : Argument) : Prop :=
  ∃ offset, a.print <+: text.drop offset ∧ read = a.placed offset

/-- `read` is the form as it is written in the text: its parenthesis stands at its offset, and its
arguments are written in the text as well. -/
structure PlainForm.WrittenIn (text : Bytes) (f : PlainForm) (read : RawPredicate) : Prop where
  /-- The form stands at its offset. -/
  stands : f.print <+: text.drop read.offset
  /-- The operator is that of the form. -/
  operator : read.operator = some f.operator.bytes
  /-- The arguments are those of the form, each where it is written. -/
  arguments : List.Forall₂ (PlainArgument.WrittenIn text) f.arguments read.arguments

theorem drop_add_of_drop_eq {text before behind : Bytes} {offset : Nat}
    (h : text.drop offset = before ++ behind) : text.drop (offset + before.length) = behind := by
  rw [← List.drop_drop, h, List.drop_left]

/-- Every argument is written where it is placed. -/
theorem placeArguments_writtenIn {text rest : Bytes} {offset : Nat} {arguments : List PlainArgument}
    (h : text.drop offset = printArguments arguments ++ rest) :
    List.Forall₂ (PlainArgument.WrittenIn text) arguments (placeArguments offset arguments) := by
  induction arguments generalizing offset with
  | nil => exact .nil
  | cons a arguments ih =>
    have first : text.drop (offset + 1) = a.print ++ (printArguments arguments ++ rest) := by
      simp [← List.drop_drop, h, PlainArgument.print]
    refine .cons ⟨offset + 1, ?_, rfl⟩ (ih (drop_add_of_drop_eq first))
    rw [first]
    exact List.prefix_append _ _

theorem PlainForm.placed_writtenIn {text rest : Bytes} {offset : Nat} {f : PlainForm}
    (h : text.drop offset = f.print ++ rest) : f.WrittenIn text (f.placed offset) := by
  have opening : text.drop offset =
      (Ascii.openParen :: Ascii.hash :: f.operator.bytes) ++
        (printArguments f.arguments ++ Ascii.closeParen :: rest) := by
    rw [h, PlainForm.print, List.cons_append, f.body_append]
    rfl
  have width : offset + (Ascii.openParen :: Ascii.hash :: f.operator.bytes).length =
      offset + 2 + f.operator.bytes.length := by
    simp only [List.length_cons]
    omega
  have arguments := placeArguments_writtenIn (width ▸ drop_add_of_drop_eq opening)
  refine ⟨?_, rfl, arguments⟩
  rw [PlainForm.placed, h]
  exact List.prefix_append _ _

/-- Every form is written where it is placed. -/
theorem placeForms_writtenIn {text rest : Bytes} {offset : Nat} {forms : List PlainForm}
    (h : text.drop offset = spaced (forms.map PlainForm.print) ++ rest) :
    List.Forall₂ (PlainForm.WrittenIn text) forms (placeForms offset forms) := by
  induction forms generalizing offset with
  | nil => exact .nil
  | cons f forms ih =>
    cases forms with
    | nil =>
      rw [List.map_singleton, spaced_singleton] at h
      exact .cons (PlainForm.placed_writtenIn h) .nil
    | cons g forms =>
      simp only [List.map_cons, spaced_cons_cons, List.append_assoc, List.cons_append] at h ih
      have behind : text.drop (offset + f.print.length + 1) =
          spaced (g.print :: forms.map PlainForm.print) ++ rest := by
        rw [← List.drop_drop, drop_add_of_drop_eq h]
        rfl
      exact .cons (PlainForm.placed_writtenIn h) (ih behind)

/-! ## Taking a printed query apart -/

/-- **Writing forms and reading them is the identity.** A query with forms written into it is taken
apart into these forms, each with the offset where it is written, and the written text with white
space in place of the forms. -/
theorem extract_printQuery (forms : List PlainForm) (spaces : Nat) :
    extract (printQuery forms spaces) =
        .ok ⟨printStripped forms spaces, placeForms 5 forms⟩ ∧
      List.Forall₂ (PlainForm.WrittenIn (printQuery forms spaces)) forms (placeForms 5 forms) := by
  have closing (offset : Nat) : scan 1 offset (Bytes.ofText ")") = .ok ⟨Bytes.ofText ")", []⟩ := by
    have bytes : Bytes.ofText ")" = [Ascii.closeParen] := by decide +kernel
    rw [bytes]
    exact scan_cons_eq_ok (.close (.inl rfl)) (by rw [List.drop_nil, scan])
  have scanned := scan_opening (scan_forms forms Nat.one_pos (scan_spaces spaces (closing _)))
  have behind : (printQuery forms spaces).drop 5 = spaced (forms.map PlainForm.print) ++
      (List.replicate spaces Ascii.space ++ Bytes.ofText ")") := by
    have opening : (Bytes.ofText "((x) ").length = 5 := by decide +kernel
    simp only [printQuery, List.append_assoc, ← opening, List.drop_left]
  refine ⟨?_, placeForms_writtenIn behind⟩
  rw [extract]
  simp only [printQuery, List.append_assoc, scanned, printStripped]
  simp only [List.append_nil]
  rfl

example :
    printQuery [⟨⟨Bytes.ofText "eq?", by decide +kernel, by decide +kernel⟩,
      [.capture ⟨Bytes.ofText "a", by decide +kernel, by decide +kernel⟩,
        .literal (Bytes.ofText "(\"")]⟩] 1 =
      Bytes.ofText "((x) (#eq? @a \"(\\\"\") )" := by
  decide +kernel

end SyntaxForest.Query
