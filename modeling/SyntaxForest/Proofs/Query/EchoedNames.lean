import Mathlib.Data.List.TakeWhile
import SyntaxForest.Proofs.Query.Refusals

/-!
# Echoed names

A form that speaks of a capture which does not exist is refused at the name, and the message echoes
the name. What it echoes is found again in the text, by a rule that is narrower than the one that
reads names: the echo begins with a letter or an underscore, and it goes on with letters, digits,
underscores and dashes only. So a name with a dot is echoed up to the dot, and a name that begins
with a digit is not echoed at all.

## Main definitions

* `QueryError.echo?`: what a message echoes of a name
* `QueryError.IsPlain`: the names that are echoed as a whole
* `QueryError.unknownCaptureMessage`: the wording of the error

## Main results

* `QueryError.identifierAt?_eq_echo?`: the echo is found from the name alone
* `QueryError.unknownCaptureMessage_eq_iff`: the message shows whether a name is echoed as a whole
* `PatternQuery.unknownCapture_echoes_name_iff`: the names of unknown captures that are echoed
-/

namespace SyntaxForest

open Query RegexCache

namespace QueryError

/-! ## What is echoed -/

/-- What a message echoes of a name: nothing, unless it begins with a letter or an underscore, and
else the name up to the first byte that is no letter, digit, underscore or dash. -/
def echo? : Bytes → Option Bytes
  | [] => none
  | b :: rest =>
    if Ascii.isLetter b || b = 95 then some (b :: rest.takeWhile isIdentifierRest) else none

/-- The name begins with a letter or an underscore and has letters, digits, underscores and dashes
only. -/
structure IsPlain (name : Bytes) : Prop where
  /-- It begins with a letter or an underscore. -/
  begins : ∃ b, name.head? = some b ∧ (Ascii.isLetter b = true ∨ b = 95)
  /-- It has letters, digits, underscores and dashes only. -/
  goesOn : ∀ b ∈ name, isIdentifierRest b = true

section Echoes

variable {name rest : Bytes} {b : UInt8}

theorem isIdentifierRest_of_begins (h : (Ascii.isLetter b || b = 95) = true) :
    isIdentifierRest b = true := by
  simp only [Bool.or_eq_true, decide_eq_true_eq] at h
  rcases h with letter | underscore
  · simp [isIdentifierRest, letter]
  · simp [isIdentifierRest, underscore]

theorem isIdentifierByte_of_isIdentifierRest (h : isIdentifierRest b = true) :
    isIdentifierByte b = true := by
  simp only [isIdentifierRest, Bool.or_eq_true, decide_eq_true_eq] at h
  simp only [isIdentifierByte, Bool.or_eq_true, decide_eq_true_eq]
  tauto

theorem lt_of_isIdentifierRest (h : isIdentifierRest b = true) : b < 0x80 := by
  simp only [isIdentifierRest, Ascii.isLetter, Ascii.isDigit, Bool.or_eq_true, Bool.and_eq_true,
    decide_eq_true_eq] at h
  grind

/-- What is echoed is the beginning of the name, and it is ASCII. -/
theorem exists_of_echo?_eq {shown : Bytes} (h : echo? name = some shown) :
    ∃ tail, name = shown ++ tail ∧ ∀ b ∈ shown, b < 0x80 := by
  cases name with
  | nil => cases h
  | cons b name =>
    rw [echo?] at h
    split at h
    next begins =>
      cases h
      refine ⟨name.dropWhile isIdentifierRest, ?_, fun c hc => lt_of_isIdentifierRest ?_⟩
      · rw [List.cons_append, List.takeWhile_append_dropWhile]
      · rcases List.mem_cons.mp hc with rfl | hc
        · exact isIdentifierRest_of_begins begins
        · exact List.all_eq_true.mp List.all_takeWhile c hc
    next => cases h

/-- The names that are echoed as a whole are the plain ones. -/
theorem echo?_eq_some_self_iff : echo? name = some name ↔ IsPlain name := by
  cases name with
  | nil => exact iff_of_false nofun fun ⟨⟨_, head, _⟩, _⟩ => nomatch head
  | cons b name =>
    constructor
    · intro h
      rw [echo?] at h
      split at h
      next begins =>
        have whole := (List.cons.inj (Option.some.inj h)).2
        refine ⟨⟨b, rfl, by simpa using begins⟩, List.forall_mem_cons.mpr
          ⟨isIdentifierRest_of_begins begins, List.takeWhile_eq_self_iff.mp whole⟩⟩
      next => cases h
    · rintro ⟨⟨_, ⟨⟩, begins⟩, goesOn⟩
      rw [echo?, if_pos (by simpa using begins),
        List.takeWhile_eq_self_iff.mpr fun c hc => goesOn c (List.mem_cons_of_mem b hc)]

/-- **The echo is found from the name alone**, as the name ends before a byte that no echo has. -/
theorem identifierAt?_eq_echo? (before : Bytes) (ne_nil : name ≠ [])
    (word : IsRun isIdentifierByte name rest) :
    identifierAt? (before ++ (name ++ rest)) before.length = echo? name := by
  cases name with
  | nil => exact absurd rfl ne_nil
  | cons b name =>
    simp only [identifierAt?, echo?, List.drop_left, List.cons_append]
    by_cases begins : (Ascii.isLetter b || b = 95) = true
    · have ascii := lt_of_isIdentifierRest (isIdentifierRest_of_begins begins)
      have boundary : Utf8.isBoundary (before ++ b :: (name ++ rest)) before.length = true := by
        simp [Utf8.isBoundary, ascii]
      -- What may go on an echo may go on a name, so the echo ends with the name at the latest.
      have stops : rest.takeWhile isIdentifierRest = [] := by
        cases rest with
        | nil => rfl
        | cons c rest =>
          refine List.takeWhile_cons_of_neg fun goesOn => ?_
          have := word.boundary c rfl
          rw [isIdentifierByte_of_isIdentifierRest goesOn] at this
          cases this
      have run : (name ++ rest).takeWhile isIdentifierRest = name.takeWhile isIdentifierRest := by
        rw [List.takeWhile_append, stops, List.append_nil]
        split
        next all => exact ((List.takeWhile_prefix _).eq_of_length all).symm
        next => rfl
      rw [if_pos boundary, if_pos begins, if_pos begins, run]
    · rw [if_neg begins, if_neg begins, ite_self]

end Echoes

/-! ## Messages -/

/-- The wording of the error about an unknown capture, with what it echoes. -/
def unknownCaptureMessage (shown : Option Bytes) (p : Point) : String :=
  match shown with
  | some name => s!"invalid capture '{name.toText}' at line {p.row + 1} column {p.column + 1}"
  | none => s!"invalid capture at line {p.row + 1} column {p.column + 1}"

theorem positionedMessage_unknownCapture (source : Bytes) (offset : Nat) :
    positionedMessage source offset .unknownCapture =
      unknownCaptureMessage (identifierAt? source offset) (pointAt source offset) := by
  unfold positionedMessage unknownCaptureMessage
  rw [locate_eq_pointAt]
  apply String.toList_injective
  cases identifierAt? source offset <;> simp [toString, Kind.isAboutIdentifier, Kind.category]

/-- Names with one message read alike. -/
theorem toText_eq_of_unknownCaptureMessage_eq {a b : Bytes} {p : Point}
    (h : unknownCaptureMessage (some a) p = unknownCaptureMessage (some b) p) :
    a.toText = b.toText := by
  -- The numbers must not be computed when the messages are compared.
  unfold unknownCaptureMessage at h
  generalize toString (p.row + 1) = row at h
  generalize toString (p.column + 1) = column at h
  exact String.toList_injective (by simpa [toString] using congrArg String.toList h)

theorem unknownCaptureMessage_none_ne (name : Bytes) (p : Point) :
    unknownCaptureMessage none p ≠ unknownCaptureMessage (some name) p := by
  unfold unknownCaptureMessage
  generalize toString (p.row + 1) = row
  generalize toString (p.column + 1) = column
  intro h
  have letters := congrArg String.toList h
  simp [toString] at letters

/-- **The message shows whether a name is echoed as a whole.** -/
theorem unknownCaptureMessage_eq_iff {name : Bytes} (p : Point) :
    unknownCaptureMessage (echo? name) p = unknownCaptureMessage (some name) p ↔
      IsPlain name := by
  rw [← echo?_eq_some_self_iff]
  refine ⟨fun same => ?_, fun whole => congrArg (unknownCaptureMessage · p) whole⟩
  cases shown : echo? name with
  | none =>
    rw [shown] at same
    exact absurd same (unknownCaptureMessage_none_ne name p)
  | some text =>
    rw [shown] at same
    obtain ⟨tail, rfl, ascii⟩ := exists_of_echo?_eq shown
    -- The name reads as its echo, so what stands behind the echo reads as nothing.
    have read : Utf8.decode text = Utf8.decode text ++ Utf8.decode tail := by
      rw [← Utf8.decode_append ascii]
      exact String.ofList_injective (toText_eq_of_unknownCaptureMessage_eq same)
    obtain ⟨-, rfl⟩ := Utf8.decodeFrom_eq_nil (List.self_eq_append_right.mp read)
    rw [List.append_nil]

end QueryError

namespace Query

/-! ## Names of unknown captures -/

section Forms

variable {source : Bytes} {raw : RawPredicate} {operator name : Bytes} {offset : Nat}

/-- A name stands behind its at sign and runs as far as it can. -/
theorem exists_name_of_mem {e : Extraction} (extracted : extract source = .ok e)
    (hraw : raw ∈ e.predicates) (ha : Argument.capture name offset ∈ raw.arguments) :
    ∃ before rest, source = before ++ Ascii.atSign :: (name ++ rest) ∧ name ≠ [] ∧
      IsRun isIdentifierByte name rest ∧ offset = before.length + 1 := by
  obtain ⟨before, word, behind, rfl, stands, -⟩ := standsIn_of_mem extracted hraw ha
  cases stands with
  | capture ne_nil word => exact ⟨before, behind, rfl, ne_nil, word, rfl⟩

/-- A capture in front of all other arguments is the first that does not exist, if it does not. -/
theorem isFirstFailure_head {index? : Bytes → Option Nat} {arguments : List Argument}
    (unknown : index? name = none) :
    IsFirstFailure (fun _ => Argument.IsKnown index?) (.capture name offset :: arguments)
      (.capture name offset) := by
  refine ⟨0, rfl, ?_, fun j before => absurd before (Nat.not_lt_zero j)⟩
  rintro ⟨operand, finds⟩
  cases finds with
  | capture found => cases unknown.symm.trans found

theorem Predicate.ofRaw_of_unknownCapture {dialect : Regex.Dialect} {hash : Bytes → UInt64}
    (source : Bytes) (cache : RegexCache dialect hash) {index? : Bytes → Option Nat}
    (named : raw.operator = some operator)
    (first : IsFirstFailure (fun _ => Argument.IsKnown index?) raw.arguments
      (.capture name offset)) :
    Predicate.ofRaw raw source index? cache =
      (.error (.positioned source offset .unknownCapture), cache) := by
  simp only [ofRaw, named, RawPredicate.resolveAll_of_isFirstFailure first, Argument.offset]

end Forms

end Query

namespace PatternQuery

/-- The first form that is no predicate, if a capture in it does not exist, refuses the query at the
name of that capture. -/
theorem run_compile_of_unknownCapture {σ : Type} (engine : Engine σ) (grammar : Grammar)
    {source : Bytes} {dialect : Regex.Dialect} {hash : Bytes → UInt64}
    {cache : RegexCache dialect hash} {s s' : σ} {e : Extraction} {shape : QueryShape}
    {before behind : List RawPredicate} {raw : RawPredicate}
    {operator name : Bytes} {offset : Nat} (faithful : cache.IsFaithful)
    (extracted : extract source = .ok e)
    (accepted : (engine.compile grammar.language e.structural).run s = (.ok shape, s'))
    (split : e.predicates = before ++ raw :: behind)
    (passed : ∀ r ∈ before, r.Passes dialect shape)
    (named : raw.operator = some operator)
    (first : IsFirstFailure (fun _ => Argument.IsKnown (Query.captureIndex? shape.captures))
      raw.arguments (.capture name offset)) :
    ∃ d, (compile engine grammar source cache).run s =
      ((.error (.positioned source offset .unknownCapture), d), s') := by
  obtain ⟨err, d, run, alone, -⟩ := run_compile_of_refused faithful extracted accepted split passed
    (.unknownCapture named first)
  rw [Predicate.ofRaw_of_unknownCapture source cache named first] at alone
  cases alone
  exact ⟨d, run⟩

/-- **The names of unknown captures that are echoed.** A query that the engine accepts, and whose
first form that is no predicate speaks of a capture that does not exist, is refused at the first
byte of the capture's name, which stands behind an at sign and runs as far as it can. The message
echoes the part of the name that is an identifier for messages. So it echoes the name as a whole
exactly if the name begins with a letter or an underscore and has letters, digits, underscores and
dashes only. -/
theorem unknownCapture_echoes_name_iff {σ : Type} (engine : Engine σ) (grammar : Grammar)
    {source : Bytes} {s s' : σ} {dialect : Regex.Dialect} {hash : Bytes → UInt64} (capacity : Nat)
    (calls : List Call) (cache : RegexCache dialect hash)
    (reached : cache = afterCalls dialect hash capacity calls) {e : Extraction}
    {shape : QueryShape} (extracted : extract source = .ok e)
    (accepted : (engine.compile grammar.language e.structural).run s = (.ok shape, s'))
    {before behind : List RawPredicate} {raw : RawPredicate} {operator name : Bytes}
    {offset : Nat} (split : e.predicates = before ++ raw :: behind)
    (passed : ∀ r ∈ before, r.Passes dialect shape)
    (named : raw.operator = some operator)
    (first : IsFirstFailure (fun _ => Argument.IsKnown (Query.captureIndex? shape.captures))
      raw.arguments (.capture name offset)) :
    ∃ err d, (compile engine grammar source cache).run s = ((.error err, d), s') ∧
      err.kind = .unknownCapture ∧
      (∃ front rest, source = front ++ Ascii.atSign :: (name ++ rest) ∧ name ≠ [] ∧
        IsRun isIdentifierByte name rest ∧ err.offset = front.length + 1) ∧
      err.IsLocatedIn source ∧
      err.message = QueryError.unknownCaptureMessage (QueryError.echo? name) err.point ∧
      (err.message = QueryError.unknownCaptureMessage (some name) err.point ↔
        QueryError.IsPlain name) := by
  have faithful : cache.IsFaithful := reached ▸ isFaithful_afterCalls dialect hash capacity calls
  obtain ⟨d, run⟩ :=
    run_compile_of_unknownCapture engine grammar faithful extracted accepted split passed named
      first
  have member : raw ∈ e.predicates := split ▸ List.mem_append_right _ List.mem_cons_self
  obtain ⟨front, rest, place, ne_nil, word, behindSign⟩ :=
    exists_name_of_mem extracted member first.mem
  have inside := (standsIn_of_mem extracted member first.mem).offset_lt
  -- The echo is looked for at the name's first byte, which stands behind the at sign.
  have found : QueryError.identifierAt? source offset = QueryError.echo? name := by
    have split : source = (front ++ [Ascii.atSign]) ++ (name ++ rest) := by simp [place]
    have width : offset = (front ++ [Ascii.atSign]).length := by simp [behindSign]
    rw [split, width]
    exact QueryError.identifierAt?_eq_echo? _ ne_nil word
  have point := QueryError.point_positioned source offset .unknownCapture
  have message : QueryError.positionedMessage source offset .unknownCapture =
      QueryError.unknownCaptureMessage (QueryError.echo? name) (pointAt source offset) := by
    rw [QueryError.positionedMessage_unknownCapture, found]
  refine ⟨_, d, run, rfl, ⟨front, rest, place, ne_nil, word, behindSign⟩,
    QueryError.isLocatedIn_of_point_eq (Nat.le_of_lt inside) point, point.symm ▸ message, ?_⟩
  rw [← QueryError.unknownCaptureMessage_eq_iff (pointAt source offset), ← message, point]
  rfl

/-- A name of one letter is echoed as a whole. -/
theorem unknownCapture_echoes_letter :
    ∃ err d, (compile (oneShapeEngine ⟨[Bytes.ofText "a"], [0], [[.one]]⟩) default
        (Bytes.ofText "((x) @a (#eq? @b \"y\"))") (afterCalls .standard (fun _ => 0) 1 [])).run () =
          ((.error err, d), ()) ∧
      err.kind = .unknownCapture ∧
      err.message = QueryError.unknownCaptureMessage (some (Bytes.ofText "b")) err.point := by
  have extracted : extract (Bytes.ofText "((x) @a (#eq? @b \"y\"))") =
      .ok ⟨Bytes.ofText "((x) @a              )",
        [⟨8, some (Bytes.ofText "eq?"), [.capture (Bytes.ofText "b") 15,
          .literal (Bytes.ofText "y") 17]⟩]⟩ := by
    decide +kernel
  have unknown : Query.captureIndex? [Bytes.ofText "a"] (Bytes.ofText "b") = none := by
    decide +kernel
  have plain : QueryError.IsPlain (Bytes.ofText "b") :=
    ⟨⟨98, by decide +kernel, .inl (by decide)⟩, by decide +kernel⟩
  obtain ⟨err, d, run, kind, -, -, -, whole⟩ := unknownCapture_echoes_name_iff
    (oneShapeEngine ⟨[Bytes.ofText "a"], [0], [[.one]]⟩) default 1 [] _ rfl extracted rfl
    (List.nil_append _).symm nofun rfl (isFirstFailure_head unknown)
  exact ⟨err, d, run, kind, whole.mpr plain⟩

/-- A name with a dot is echoed up to the dot, so that the message names a capture that exists. -/
theorem unknownCapture_echoes_part_of_name :
    ∃ source e raw name err d,
      source = Bytes.ofText
        "((assignment left: (identifier) @a right: (identifier) @b)\n  (#eq? @a.b \"x\"))" ∧
      extract source = .ok e ∧ e.predicates = [raw] ∧ name = Bytes.ofText "a.b" ∧
      raw.arguments.head? = some (.capture name 68) ∧
      Query.captureIndex? [Bytes.ofText "a", Bytes.ofText "b"] name = none ∧
      (compile (oneShapeEngine ⟨[Bytes.ofText "a", Bytes.ofText "b"], [0], [[.one, .one]]⟩) default
          source (afterCalls .standard (fun _ => 0) 1 [])).run () = ((.error err, d), ()) ∧
      err.kind = .unknownCapture ∧ err.offset = 68 ∧ err.point = ⟨1, 9⟩ ∧
      err.message = "invalid capture 'a' at line 2 column 10" ∧
      err.message ≠ QueryError.unknownCaptureMessage (some name) err.point := by
  have extracted : extract (Bytes.ofText
      "((assignment left: (identifier) @a right: (identifier) @b)\n  (#eq? @a.b \"x\"))") =
      .ok ⟨Bytes.ofText
        "((assignment left: (identifier) @a right: (identifier) @b)\n                 )",
        [⟨61, some (Bytes.ofText "eq?"), [.capture (Bytes.ofText "a.b") 68,
          .literal (Bytes.ofText "x") 72]⟩]⟩ := by
    decide +kernel
  have unknown : Query.captureIndex? [Bytes.ofText "a", Bytes.ofText "b"] (Bytes.ofText "a.b") =
      none := by
    decide +kernel
  obtain ⟨d, run⟩ := run_compile_of_unknownCapture
    (oneShapeEngine ⟨[Bytes.ofText "a", Bytes.ofText "b"], [0], [[.one, .one]]⟩) default
    (isFaithful_afterCalls .standard (fun _ => 0) 1 []) extracted rfl
    (List.nil_append _).symm nofun rfl
    (isFirstFailure_head unknown)
  exact ⟨_, _, _, _, _, d, rfl, extracted, rfl, rfl, rfl, unknown, run, rfl, rfl, by decide +kernel,
    by decide +kernel, by decide +kernel⟩

end PatternQuery

end SyntaxForest
