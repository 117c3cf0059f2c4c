import SyntaxForest.Proofs.Query.Attachment
import SyntaxForest.Proofs.Query.Blanking
import SyntaxForest.Proofs.Query.Caching
import SyntaxForest.Proofs.Query.Deciding
import SyntaxForest.Proofs.Query.Places
import SyntaxForest.Proofs.Text.Lines

/-!
# Refused queries

A query that does not compile is refused for one reason, and the stages of the compilation say
which. A defect of the text comes before all else, then a refusal by the engine, and then the first
form, in source order, that is no predicate. What stands behind that form has no say.

Every error tells its place in the text as it was written: the row counts the line ends in front of
the place and the column the bytes since the last of them, also where the engine has found it in the
structural text.

## Main definitions

* `QueryError.IsLocatedIn`: the error tells its place in a text
* `RawPredicate.Passes`: the forms that refuse no query
* `Engine.Suits`: what a query relies on in the engine's answer

## Main results

* `exists_first_refused`: where not all forms are predicates, there is a first one that is none
* `readPredicates_of_passes`, `readPredicates_of_refused`: what reading makes of a list of forms
* `PatternQuery.cases_of_compile_eq_error`: the reasons to refuse a query
* `PatternQuery.compile_reports_first_failure`: the order of the stages, and the places of errors
-/

namespace SyntaxForest

open Query RegexCache

/-! ## Places of errors -/

/-- The error lies in the text. Its row counts the line ends in front of it, and its column the
bytes since the last of them. -/
structure QueryError.IsLocatedIn (source : Bytes) (err : QueryError) : Prop where
  /-- It is not past the end. -/
  offset_le : err.offset ≤ source.length
  /-- The text in front of it falls into whole lines and the beginning of one more. -/
  lines : ∃ before line, source.take err.offset = before ++ line ∧
    (before = [] ∨ ∃ front, before = front ++ [Ascii.newline]) ∧ Ascii.newline ∉ line ∧
    err.point = ⟨before.count Ascii.newline, line.length⟩

theorem QueryError.isLocatedIn_of_point_eq {source : Bytes} {err : QueryError}
    (inside : err.offset ≤ source.length) (point : err.point = pointAt source err.offset) :
    err.IsLocatedIn source := by
  obtain ⟨before, split, ends, line⟩ := exists_lines (source.take err.offset)
  refine ⟨inside, before, _, split, ends, line, ?_⟩
  -- The last line has no line end, so the whole lines have them all.
  have row : (source.take err.offset).count Ascii.newline = before.count Ascii.newline := by
    conv => lhs; rw [split]
    rw [List.count_append, List.count_eq_zero.mpr line, Nat.add_zero]
  rw [point, pointAt, row]

namespace Query

/-! ## The first form that is no predicate -/

/-- The form is a predicate, and a pattern starts at or before it. -/
def RawPredicate.Passes (dialect : Regex.Dialect) (shape : QueryShape) (raw : RawPredicate) :
    Prop :=
  raw.IsPredicate dialect (captureIndex? shape.captures) ∧
    ∃ i, patternAt? shape.starts raw.offset = some i

section Forms

variable {dialect : Regex.Dialect} {hash : Bytes → UInt64} {source : Bytes}
  {cache : RegexCache dialect hash}

theorem exists_ofRaw_eq_ok (source : Bytes) {raw : RawPredicate} {index? : Bytes → Option Nat}
    (faithful : cache.IsFaithful) (h : raw.IsPredicate dialect index?) :
    ∃ p d, Predicate.ofRaw raw source index? cache = (.ok p, d) ∧ d.IsFaithful := by
  obtain ⟨answer, answers⟩ := exists_answers_ofRaw dialect raw source index?
  obtain ⟨d, read, faithful'⟩ := answers cache faithful
  obtain ⟨p, spells⟩ := h.exists_spells
  obtain rfl : answer = .ok p :=
    (congrArg Prod.fst read).symm.trans (Predicate.ofRaw_of_spells faithful spells)
  exact ⟨p, d, read, faithful'⟩

/-- Either all forms are predicates, or there is a first one that is none. -/
theorem exists_first_refused (index? : Bytes → Option Nat) (raws : List RawPredicate) :
    (∀ raw ∈ raws, raw.IsPredicate dialect index?) ∨
      ∃ before raw behind kind offset, raws = before ++ raw :: behind ∧
        (∀ r ∈ before, r.IsPredicate dialect index?) ∧ raw.Refused dialect index? kind offset := by
  induction raws with
  | nil => exact .inl nofun
  | cons raw raws ih =>
    obtain isPredicate | ⟨kind, offset, refused⟩ := raw.isPredicate_or_refused dialect index?
    · obtain all | ⟨before, raw', behind, kind, offset, rfl, passed, refused⟩ := ih
      · exact .inl (List.forall_mem_cons.mpr ⟨isPredicate, all⟩)
      · exact .inr ⟨raw :: before, raw', behind, kind, offset, rfl,
          List.forall_mem_cons.mpr ⟨isPredicate, passed⟩, refused⟩
    · exact .inr ⟨[], raw, raws, kind, offset, rfl, nofun, refused⟩

variable {shape : QueryShape} {before raws : List RawPredicate}

/-- Reading goes on behind forms that pass. -/
theorem exists_readPredicates_append (source : Bytes) (faithful : cache.IsFaithful)
    (passed : ∀ r ∈ before, r.Passes dialect shape) (raws : List RawPredicate) :
    ∃ (attached : List (Fin shape.starts.length × Predicate)) (c : RegexCache dialect hash),
      c.IsFaithful ∧ readPredicates source shape (before ++ raws) cache =
        ((readPredicates source shape raws c).1.map (attached ++ ·),
          (readPredicates source shape raws c).2) := by
  induction before generalizing cache with
  | nil =>
    refine ⟨[], cache, faithful, Prod.ext ?_ rfl⟩
    rw [List.nil_append]
    cases (readPredicates source shape raws cache).1 <;> rfl
  | cons r before ih =>
    obtain ⟨⟨isPredicate, i, pattern⟩, passed⟩ := List.forall_mem_cons.mp passed
    obtain ⟨p, d, read, faithful'⟩ := exists_ofRaw_eq_ok source faithful isPredicate
    -- The forms that are left are read through the cache that this one leaves.
    obtain ⟨attached, c, faithful'', rest⟩ := ih faithful' passed
    refine ⟨(i, p) :: attached, c, faithful'', ?_⟩
    simp only [List.cons_append, readPredicates, read, pattern, rest]
    cases (readPredicates source shape raws c).1 <;> rfl

/-- Forms that all pass are read. -/
theorem readPredicates_of_passes (source : Bytes) (faithful : cache.IsFaithful)
    (all : ∀ r ∈ raws, r.Passes dialect shape) :
    ∃ attached, (readPredicates source shape raws cache).1 = .ok attached := by
  obtain ⟨attached, c, -, read⟩ := exists_readPredicates_append source faithful all []
  rw [List.append_nil] at read
  exact ⟨attached ++ [], congrArg Prod.fst read⟩

/-- Behind forms that pass, reading fails with the error of the first form that is no predicate. -/
theorem readPredicates_of_refused (source : Bytes) {raw : RawPredicate}
    (behind : List RawPredicate) {kind : QueryError.Kind} {offset : Nat}
    (faithful : cache.IsFaithful) (passed : ∀ r ∈ before, r.Passes dialect shape)
    (refused : raw.Refused dialect (captureIndex? shape.captures) kind offset) :
    ∃ err, (readPredicates source shape (before ++ raw :: behind) cache).1 = .error err ∧
      (Predicate.ofRaw raw source (captureIndex? shape.captures) cache).1 = .error err ∧
      err.kind = kind ∧ err.offset = offset ∧ err.point = pointAt source offset := by
  obtain ⟨attached, c, faithful', read⟩ :=
    exists_readPredicates_append source faithful passed (raw :: behind)
  obtain ⟨err, failed, reports⟩ := Predicate.ofRaw_of_refused faithful source refused
  -- The form is read through another cache than the first, with the same answer.
  obtain ⟨answer, answers⟩ := exists_answers_ofRaw dialect raw source (captureIndex? shape.captures)
  obtain ⟨d, here, -⟩ := answers cache faithful
  obtain ⟨d', there, -⟩ := answers c faithful'
  obtain rfl : answer = .error err := (congrArg Prod.fst here).symm.trans failed
  refine ⟨err, ?_, failed, reports⟩
  dsimp only at there
  rw [read]
  simp only [readPredicates, there]
  rfl

theorem length_structural {e : Extraction} (extracted : extract source = .ok e) :
    e.structural.length = source.length := by
  obtain ⟨ps, reading, rfl⟩ := extract_eq_ok_iff.mp extracted
  simpa only [List.length_map] using congrArg List.length reading.map_newline_structuralText

theorem exists_patternAt?_of_head? {starts : List Nat} {first offset : Nat}
    (head : starts.head? = some first) (reached : first ≤ offset) :
    ∃ i, patternAt? starts offset = some i := by
  obtain ⟨rest, rfl⟩ := List.head?_eq_some_iff.mp head
  have inside : 0 < ((first :: rest).takeWhile (· ≤ offset)).length := by simp [reached]
  exact ⟨_, dif_pos inside⟩

/-- A form is refused at a byte of the query. -/
theorem RawPredicate.Refused.offset_lt {e : Extraction} {raw : RawPredicate}
    {index? : Bytes → Option Nat} {kind : QueryError.Kind} {offset : Nat}
    (h : raw.Refused dialect index? kind offset) (extracted : extract source = .ok e)
    (hraw : raw ∈ e.predicates) : offset < source.length := by
  obtain rfl | ⟨a, ha, rfl⟩ := h.offset_eq
  · exact (opensIn_of_mem extracted hraw).offset_lt
  · exact (standsIn_of_mem extracted hraw ha).offset_lt

/-- A form is refused where a character of the query begins. -/
theorem RawPredicate.Refused.isCharStart {e : Extraction} {raw : RawPredicate}
    {index? : Bytes → Option Nat} {kind : QueryError.Kind} {offset : Nat}
    (h : raw.Refused dialect index? kind offset) (extracted : extract source = .ok e)
    (hraw : raw ∈ e.predicates) (valid : Utf8.Valid source) :
    Utf8.IsCharStart source offset := by
  obtain rfl | ⟨a, ha, rfl⟩ := h.offset_eq
  · exact (opensIn_of_mem extracted hraw).isCharStart valid
  · exact (standsIn_of_mem extracted hraw ha).isCharStart valid

end Forms

end Query

/-! ## Compiling -/

/-- What a query relies on in the engine's answer to its structural text: a refusal lies in the
text, and the pattern starts are increasing, with the first of them at or before every form. -/
structure Engine.Suits {σ : Type} (engine : Engine σ) (grammar : Grammar) (source : Bytes)
    (s : σ) : Prop where
  /-- A refusal lies in the text. -/
  offset_le : ∀ e refusal s', extract source = .ok e →
    (engine.compile grammar.language e.structural).run s = (.error refusal, s') →
    refusal.offset ≤ e.structural.length
  /-- The pattern starts are increasing. -/
  sorted : ∀ e shape s', extract source = .ok e →
    (engine.compile grammar.language e.structural).run s = (.ok shape, s') →
    shape.starts.Pairwise (· < ·)
  /-- A pattern starts at or before every form. -/
  first_le : ∀ e shape s', extract source = .ok e →
    (engine.compile grammar.language e.structural).run s = (.ok shape, s') →
    ∀ raw ∈ e.predicates, ∃ first, shape.starts.head? = some first ∧ first ≤ raw.offset

namespace PatternQuery

section Stages

variable {σ : Type} {engine : Engine σ} {grammar : Grammar} {source : Bytes}
  {dialect : Regex.Dialect} {hash : Bytes → UInt64} {cache : RegexCache dialect hash} {s s' : σ}
  {e : Extraction} {shape : QueryShape}

/-- A defect of the text is reported before the engine is asked. -/
theorem run_compile_of_extract_error {err : QueryError} (failed : extract source = .error err) :
    (compile engine grammar source cache).run s = ((.error err, cache), s) := by
  simp only [compile, failed]
  rfl

/-- Once the engine has accepted the structural text, only a form can refuse the query. -/
theorem run_compile_eq_map (cache : RegexCache dialect hash) (extracted : extract source = .ok e)
    (accepted : (engine.compile grammar.language e.structural).run s = (.ok shape, s')) :
    (compile engine grammar source cache).run s =
      (((readPredicates source shape e.predicates cache).1.map
          (⟨grammar, e.structural, shape, ·⟩),
        (readPredicates source shape e.predicates cache).2), s') := by
  rw [run_compile_eq cache extracted accepted, assemble]
  cases readPredicates source shape e.predicates cache with
  | mk outcome d => cases outcome <;> rfl

/-- The first form that is no predicate refuses the query, with the error that it gives alone. -/
theorem run_compile_of_refused (faithful : cache.IsFaithful) (extracted : extract source = .ok e)
    (accepted : (engine.compile grammar.language e.structural).run s = (.ok shape, s'))
    {before behind : List RawPredicate} {raw : RawPredicate} {kind : QueryError.Kind}
    {offset : Nat} (split : e.predicates = before ++ raw :: behind)
    (passed : ∀ r ∈ before, r.Passes dialect shape)
    (refused : raw.Refused dialect (Query.captureIndex? shape.captures) kind offset) :
    ∃ err d, (compile engine grammar source cache).run s = ((.error err, d), s') ∧
      (Predicate.ofRaw raw source (Query.captureIndex? shape.captures) cache).1 = .error err ∧
      err.kind = kind ∧ err.offset = offset ∧ err.point = pointAt source offset := by
  obtain ⟨err, read, reports⟩ := readPredicates_of_refused source behind faithful passed refused
  have run := run_compile_eq_map cache extracted accepted
  rw [split, read] at run
  exact ⟨err, _, run, reports⟩

/-- In a query that the engine suits, every predicate passes. -/
theorem passes_of_isPredicate (suits : engine.Suits grammar source s)
    (extracted : extract source = .ok e)
    (accepted : (engine.compile grammar.language e.structural).run s = (.ok shape, s'))
    {raw : RawPredicate} (hraw : raw ∈ e.predicates)
    (isPredicate : raw.IsPredicate dialect (Query.captureIndex? shape.captures)) :
    raw.Passes dialect shape := by
  obtain ⟨first, head, reached⟩ := suits.first_le e shape s' extracted accepted raw hraw
  exact ⟨isPredicate, exists_patternAt?_of_head? head reached⟩

/-- **The reasons to refuse a query**: a defect of the text, a refusal by the engine, or the first
form that is no predicate. -/
theorem cases_of_compile_eq_error (suits : engine.Suits grammar source s)
    (faithful : cache.IsFaithful) {err : QueryError} {d : RegexCache dialect hash}
    (h : (compile engine grammar source cache).run s = ((.error err, d), s')) :
    extract source = .error err ∨
    (∃ e refusal, extract source = .ok e ∧
      (engine.compile grammar.language e.structural).run s = (.error refusal, s') ∧
      err = refusal.report source) ∨
    ∃ (e : Extraction) (shape : QueryShape) (raw : RawPredicate), extract source = .ok e ∧
      raw ∈ e.predicates ∧
      raw.Refused dialect (Query.captureIndex? shape.captures) err.kind err.offset ∧
      err.point = pointAt source err.offset := by
  cases extracted : extract source with
  | error err' =>
    rw [run_compile_of_extract_error extracted] at h
    cases h
    exact .inl rfl
  | ok e =>
  cases asked : (engine.compile grammar.language e.structural).run s with
  | mk answer s'' =>
  cases answer with
  | error refusal =>
    rw [run_compile_of_refusal cache extracted asked] at h
    cases h
    exact .inr (.inl ⟨e, refusal, rfl, asked, rfl⟩)
  | ok shape =>
    obtain all | ⟨before, raw, behind, kind, offset, split, passed, refused⟩ :=
      exists_first_refused (Query.captureIndex? shape.captures) e.predicates
    · obtain ⟨attached, read⟩ := readPredicates_of_passes source faithful fun raw hraw =>
        passes_of_isPredicate suits extracted asked hraw (all raw hraw)
      rw [run_compile_eq_map cache extracted asked, read] at h
      cases h
    · obtain ⟨err', d', run, -, rfl, rfl, point⟩ :=
        run_compile_of_refused faithful extracted asked split (fun r hr =>
          passes_of_isPredicate suits extracted asked
            (split ▸ List.mem_append_left _ hr) (passed r hr)) refused
      cases run.symm.trans h
      exact .inr (.inr ⟨e, shape, raw, rfl, split ▸ List.mem_append_right _ List.mem_cons_self,
        refused, point⟩)

/-- Every error of a query tells its place in the query as it was written. -/
theorem isLocatedIn_of_compile_eq_error (suits : engine.Suits grammar source s)
    (faithful : cache.IsFaithful) {err : QueryError} {d : RegexCache dialect hash}
    (h : (compile engine grammar source cache).run s = ((.error err, d), s')) :
    err.IsLocatedIn source := by
  obtain failed | ⟨e, refusal, extracted, refused, rfl⟩ | ⟨e, shape, raw, extracted, hraw, refused,
    point⟩ := cases_of_compile_eq_error suits faithful h
  · obtain ⟨d, first, rfl⟩ := extract_eq_error_iff_firstDefect.mp failed
    exact QueryError.isLocatedIn_of_point_eq (Nat.le_of_lt first.offset_lt)
      (QueryError.point_positioned ..)
  · have inside := suits.offset_le e refusal s' extracted refused
    exact QueryError.isLocatedIn_of_point_eq (length_structural extracted ▸ inside)
      (QueryError.point_positioned ..)
  · exact QueryError.isLocatedIn_of_point_eq (Nat.le_of_lt (refused.offset_lt extracted hraw)) point

end Stages

/-- **A query is refused for its first failure**, behind any calls to the cache. A defect of the
text is reported without asking the engine, else a refusal by the engine, else the first form that
is no predicate, whatever stands behind it, with the error that this form alone would give. A query
without all of these compiles. Every error tells its place in the query as it was written, and a
defect of the text and a failure of a form lie where a character of the query begins. -/
theorem compile_reports_first_failure {σ : Type} (engine : Engine σ) (grammar : Grammar)
    (source : Bytes) (s : σ) {dialect : Regex.Dialect} {hash : Bytes → UInt64} (capacity : Nat)
    (calls : List Call) (cache : RegexCache dialect hash)
    (reached : cache = afterCalls dialect hash capacity calls)
    (suits : engine.Suits grammar source s) :
    (∀ err, extract source = .error err →
      (compile engine grammar source cache).run s = ((.error err, cache), s) ∧
        (Utf8.Valid source → Utf8.IsCharStart source err.offset)) ∧
    (∀ e refusal s', extract source = .ok e →
      (engine.compile grammar.language e.structural).run s = (.error refusal, s') →
      (compile engine grammar source cache).run s =
        ((.error (.positioned source refusal.offset refusal.kind.toErrorKind), cache), s')) ∧
    (∀ e shape s', extract source = .ok e →
      (engine.compile grammar.language e.structural).run s = (.ok shape, s') →
      ((∀ raw ∈ e.predicates, raw.IsPredicate dialect (Query.captureIndex? shape.captures)) →
        ∃ attached d, (compile engine grammar source cache).run s =
          ((.ok ⟨grammar, e.structural, shape, attached⟩, d), s')) ∧
      ∀ before raw behind kind offset, e.predicates = before ++ raw :: behind →
        (∀ r ∈ before, r.IsPredicate dialect (Query.captureIndex? shape.captures)) →
        raw.Refused dialect (Query.captureIndex? shape.captures) kind offset →
        ∃ err d, (compile engine grammar source cache).run s = ((.error err, d), s') ∧
          (Predicate.ofRaw raw source (Query.captureIndex? shape.captures) cache).1 = .error err ∧
          err.kind = kind ∧ err.offset = offset ∧
          (Utf8.Valid source → Utf8.IsCharStart source err.offset)) ∧
    ∀ err d s', (compile engine grammar source cache).run s = ((.error err, d), s') →
      err.IsLocatedIn source := by
  have faithful : cache.IsFaithful := reached ▸ isFaithful_afterCalls dialect hash capacity calls
  refine ⟨fun err failed => ?_, fun e refusal s' extracted refused => ?_,
    fun e shape s' extracted accepted => ⟨fun all => ?_, ?_⟩,
    fun err d s' h => isLocatedIn_of_compile_eq_error suits faithful h⟩
  · refine ⟨run_compile_of_extract_error failed, fun valid => ?_⟩
    obtain ⟨d, first, rfl⟩ := extract_eq_error_iff_firstDefect.mp failed
    exact first.isCharStart valid
  · exact run_compile_of_refusal cache extracted refused
  · obtain ⟨attached, read⟩ := readPredicates_of_passes source faithful fun raw hraw =>
      passes_of_isPredicate suits extracted accepted hraw (all raw hraw)
    rw [run_compile_eq_map cache extracted accepted, read]
    exact ⟨attached, _, rfl⟩
  · intro before raw behind kind offset split passed refused
    obtain ⟨err, d, run, alone, sameKind, sameOffset, -⟩ :=
      run_compile_of_refused faithful extracted accepted split (fun r hr =>
        passes_of_isPredicate suits extracted accepted
          (split ▸ List.mem_append_left _ hr) (passed r hr)) refused
    have member : raw ∈ e.predicates := split ▸ List.mem_append_right _ List.mem_cons_self
    exact ⟨err, d, run, alone, sameKind, sameOffset,
      fun valid => sameOffset ▸ refused.isCharStart extracted member valid⟩

/-- An engine that makes one shape of every query suits the queries whose forms have a pattern. -/
theorem suits_oneShapeEngine {shape : QueryShape} {grammar : Grammar} {source : Bytes}
    {e : Extraction} (extracted : extract source = .ok e)
    (sorted : shape.starts.Pairwise (· < ·))
    (first_le : ∀ raw ∈ e.predicates, ∃ first, shape.starts.head? = some first ∧
      first ≤ raw.offset) : (oneShapeEngine shape).Suits grammar source () := by
  refine ⟨fun _ _ _ _ refused => ?_, fun _ shape' _ _ accepted => ?_,
    fun e' shape' _ extracted' accepted => ?_⟩
  · cases refused
  · cases accepted
    exact sorted
  · cases accepted
    obtain rfl := Except.ok.inj (extracted'.symm.trans extracted)
    exact first_le

/-- Of two forms that are no predicates, the first one is reported, although the second one fails as
well. -/
theorem compile_reports_first_failure_of_two_forms :
    ∃ source, source = Bytes.ofText "((x) @a\n (#eq? @a)\n (#match? @a \"(\"))" ∧
      ∃ err d, (compile (oneShapeEngine ⟨[Bytes.ofText "a"], [0], [[.one]]⟩) default source
          (afterCalls .standard (fun _ => 0) 1 [])).run () = ((.error err, d), ()) ∧
        err.kind = .wrongArity ∧ err.offset = 9 ∧ err.IsLocatedIn source ∧
        Utf8.IsCharStart source 9 := by
  have extracted : extract (Bytes.ofText "((x) @a\n (#eq? @a)\n (#match? @a \"(\"))") =
      .ok ⟨Bytes.ofText "((x) @a\n          \n                 )",
        [⟨9, some (Bytes.ofText "eq?"), [.capture (Bytes.ofText "a") 16]⟩,
          ⟨20, some (Bytes.ofText "match?"), [.capture (Bytes.ofText "a") 30,
            .literal (Bytes.ofText "(") 32]⟩]⟩ := by
    decide +kernel
  obtain ⟨-, -, forms, located⟩ := compile_reports_first_failure
    (oneShapeEngine ⟨[Bytes.ofText "a"], [0], [[.one]]⟩) default _ () 1 [] _ rfl
    (suits_oneShapeEngine extracted (List.pairwise_singleton _ _) fun _ _ =>
      ⟨0, rfl, Nat.zero_le _⟩)
  have found : Query.captureIndex? [Bytes.ofText "a"] (Bytes.ofText "a") = some 0 := by
    decide +kernel
  have named : (Operator.eq false).IsNamed (Bytes.ofText "eq?") := .inl rfl
  obtain ⟨err, d, run, -, kind, offset, starts⟩ := (forms _ _ () extracted rfl).2 [] _ _ _ _ rfl
    nofun (.wrongArity rfl named (by simpa using ⟨_, .capture found⟩)
      (by simp [Operator.TakesCount]))
  have valid : Utf8.Valid (Bytes.ofText "((x) @a\n (#eq? @a)\n (#match? @a \"(\"))") := by
    decide +kernel
  have starts := starts valid
  rw [offset] at starts
  exact ⟨_, rfl, err, d, run, kind, offset, located _ _ _ run, starts⟩

end PatternQuery

end SyntaxForest
