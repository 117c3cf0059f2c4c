import SyntaxForest.Proofs.Query.Refusals
import SyntaxForest.Proofs.Text.Coordinates

/-!
# Points of query errors

Every error of a query is made for an offset of the query text, in the standard wording or in a
wording of its own, and tells the point of that offset. So the row and the column of an error are
coordinates of the text, whichever stage refuses the query and whatever the engine and the cache
answer.

## Main definitions

* `TellsPoint`: a result whose error, if it is one, tells the point of its offset

## Main results

* `tellsPoint_ofRaw`, `tellsPoint_readPredicates`, `tellsPoint_compile`: the stages of a query
* `pointAt_gives_coordinates`: what points say about offsets, in texts and in errors
-/

namespace SyntaxForest

open Query

namespace Query

/-- If the result is an error, it tells the point of its offset in the text. -/
def TellsPoint {α : Type} (source : Bytes) (result : Except QueryError α) : Prop :=
  ∀ err, result = .error err → err.point = pointAt source err.offset

section

variable {α β : Type} (source : Bytes)

theorem tellsPoint_ok (a : α) : TellsPoint source (.ok a) := nofun

theorem tellsPoint_positioned (offset : Nat) (kind : QueryError.Kind) :
    TellsPoint (α := α) source (.error (.positioned source offset kind)) := by
  rintro _ ⟨⟩
  exact QueryError.point_positioned source offset kind

theorem tellsPoint_worded (offset : Nat) (kind : QueryError.Kind) (operator : Option Bytes)
    (message : String) :
    TellsPoint (α := α) source (.error (.worded source offset kind operator message)) := by
  rintro _ ⟨⟩
  exact QueryError.point_worded source offset kind operator message

variable {source}

/-- A stage that hands an error on tells the same point. -/
theorem TellsPoint.handOn {err : QueryError} (h : TellsPoint (α := α) source (.error err)) :
    TellsPoint (α := β) source (.error err) := by
  rintro _ ⟨⟩
  exact h err rfl

end

section Forms

variable {dialect : Regex.Dialect} {hash : Bytes → UInt64} (raw : RawPredicate) (source : Bytes)
  (index? : Bytes → Option Nat) (cache : RegexCache dialect hash)

theorem tellsPoint_resolve (a : Argument) : TellsPoint source (a.resolve source index?) := by
  cases a with
  | literal value offset => exact tellsPoint_ok source _
  | capture name offset =>
    rw [Argument.resolve]
    split
    · exact tellsPoint_ok source _
    · exact tellsPoint_positioned source offset _

theorem tellsPoint_resolveAll (arguments : List Argument) :
    TellsPoint source (RawPredicate.resolveAll source index? arguments) := by
  induction arguments with
  | nil => exact tellsPoint_ok source _
  | cons a rest ih =>
    have first := tellsPoint_resolve source index? a
    rw [RawPredicate.resolveAll]
    cases found : a.resolve source index? with
    | error err =>
      rw [found] at first
      exact first.handOn
    | ok operand =>
      cases later : RawPredicate.resolveAll source index? rest with
      | error err =>
        rw [later] at ih
        exact ih.handOn
      | ok operands => exact tellsPoint_ok source _

/-- Wherever the arguments do not fit, the error is placed at the form or at an argument. -/
theorem tellsPoint_ofRaw : TellsPoint source (Predicate.ofRaw raw source index? cache).1 := by
  rw [Predicate.ofRaw]
  split
  · exact tellsPoint_worded source raw.offset _ _ _
  next name _ =>
  have resolved := tellsPoint_resolveAll source index? raw.arguments
  split
  next err found =>
    rw [found] at resolved
    exact resolved.handOn
  next arguments _ =>
  split
  · -- Equality
    unfold RawPredicate.toEq
    split
    · exact tellsPoint_ok source _
    · exact tellsPoint_worded source _ _ _ _
    · exact tellsPoint_worded source _ _ _ _
  · -- Properties
    unfold RawPredicate.toProperty
    split
    · exact tellsPoint_ok source _
    · exact tellsPoint_ok source _
    all_goals exact tellsPoint_worded source _ _ _ _
  · exact tellsPoint_ok source _
  · -- Regular expressions
    have fits : TellsPoint source (raw.toMatch source name arguments) := by
      unfold RawPredicate.toMatch
      split
      · exact tellsPoint_ok source _
      all_goals exact tellsPoint_worded source _ _ _ _
    split
    next err found =>
      rw [found] at fits
      exact fits.handOn
    next =>
      split
      · exact tellsPoint_worded source _ _ _ _
      · exact tellsPoint_ok source _

theorem tellsPoint_readPredicates (shape : QueryShape) (raws : List RawPredicate) :
    TellsPoint source (readPredicates source shape raws cache).1 := by
  induction raws generalizing cache with
  | nil => exact tellsPoint_ok source _
  | cons raw rest ih =>
    have first := tellsPoint_ofRaw raw source (captureIndex? shape.captures) cache
    rw [readPredicates]
    split
    next err cache' read =>
      rw [read] at first
      exact first.handOn
    next predicate cache' _ =>
    split
    · exact tellsPoint_positioned source raw.offset _
    next pattern _ =>
    have later := ih cache'
    split
    next err cache'' read =>
      rw [read] at later
      exact later.handOn
    next => exact tellsPoint_ok source _

end Forms

end Query

/-- **Every error of a query tells the point of its offset**, whatever the engine answers. -/
theorem PatternQuery.tellsPoint_compile {σ : Type} {dialect : Regex.Dialect}
    {hash : Bytes → UInt64} (engine : Engine σ) (grammar : Grammar) (source : Bytes)
    (cache : RegexCache dialect hash) (s : σ) :
    TellsPoint source ((compile engine grammar source cache).run s).1.1 := by
  cases extracted : extract source with
  | error err =>
    -- The text has a defect, which is reported in the standard wording.
    obtain ⟨d, -, rfl⟩ := extract_eq_error_iff_firstDefect.mp extracted
    rw [run_compile_of_extract_error extracted]
    exact tellsPoint_positioned source d.offset d.kind
  | ok e =>
    cases asked : (engine.compile grammar.language e.structural).run s with
    | mk answer s' =>
    cases answer with
    | error refusal =>
      rw [run_compile_of_refusal cache extracted asked]
      exact tellsPoint_positioned source refusal.offset _
    | ok shape =>
      have forms := tellsPoint_readPredicates source cache shape e.predicates
      rw [run_compile_eq_map cache extracted asked]
      cases read : (readPredicates source shape e.predicates cache).1 with
      | error err =>
        rw [read] at forms
        exact forms.handOn
      | ok attached => exact tellsPoint_ok source _

/-- **Points are coordinates of offsets.** Up to the end of a text the points of its offsets
increase, and from there on they stay. An offset of the text is the start of the line of its row and
its column; there are no more rows above it than line feeds, and its column is at most the length of
that line. The line stands where it starts, and each of its places is the point of its offset.

Behind a text the points are those of what follows, advanced by the point of the end of the text:
rows are added, and columns only up to the first line feed of what follows.

The locator of query errors, which goes back to the last line feed, gives the same points. So errors
tell the points of their offsets, in the standard wording and in any other, and every error with
which a query is refused does. -/
theorem pointAt_gives_coordinates (source : Bytes) :
    (∀ i j, i < j → j ≤ source.length → pointAt source i < pointAt source j) ∧
    (∀ i, source.length ≤ i → pointAt source i = pointAt source source.length) ∧
    (∀ i ≤ source.length,
      lineStart source (pointAt source i).row + (pointAt source i).column = i ∧
      (pointAt source i).row ≤ source.count Ascii.newline ∧
      ∃ line, (source.splitOn Ascii.newline)[(pointAt source i).row]? = some line ∧
        (pointAt source i).column ≤ line.length) ∧
    (∀ row line, (source.splitOn Ascii.newline)[row]? = some line →
      (source.drop (lineStart source row)).take line.length = line ∧
      ∀ column ≤ line.length, lineStart source row + column ≤ source.length ∧
        pointAt source (lineStart source row + column) = ⟨row, column⟩) ∧
    (∀ a b n, source = a ++ b → n ≤ b.length →
      pointAt source (a.length + n) =
        ⟨(pointAt a a.length).row + (pointAt b n).row,
          if Ascii.newline ∈ b.take n then (pointAt b n).column
          else (pointAt a a.length).column + (pointAt b n).column⟩) ∧
    (∀ offset, QueryError.locate source offset = pointAt source offset) ∧
    (∀ offset kind operator message,
      (QueryError.positioned source offset kind).point = pointAt source offset ∧
      (QueryError.worded source offset kind operator message).point = pointAt source offset) ∧
    ∀ {σ : Type} {dialect : Regex.Dialect} {hash : Bytes → UInt64} (engine : Engine σ)
      (grammar : Grammar) (cache d : RegexCache dialect hash) (s s' : σ) (err : QueryError),
      (PatternQuery.compile engine grammar source cache).run s = ((.error err, d), s') →
      err.point = pointAt source err.offset := by
  refine ⟨fun i j => pointAt_lt_pointAt, fun i => pointAt_of_length_le, fun i inside => ?_,
    fun row line h => ⟨?_, fun column => pointAt_lineStart_add h⟩, ?_,
    QueryError.locate_eq_pointAt source, fun offset kind operator message =>
      ⟨QueryError.point_positioned .., QueryError.point_worded ..⟩, ?_⟩
  · refine ⟨lineStart_add_column inside, ?_, exists_line_of_pointAt source i⟩
    exact (List.take_sublist i source).count_le _
  · obtain ⟨before, rest, rfl, ends, rfl, -⟩ := exists_append_of_getElem?_splitOn h
    rw [lineStart_append ends, List.drop_left, List.take_left]
  · rintro a b n rfl -
    rw [pointAt_append]
    exact Point.add_pointAt (extent a) b n
  · intro σ dialect hash engine grammar cache d s s' err refused
    have told := PatternQuery.tellsPoint_compile engine grammar source cache s
    rw [refused] at told
    exact told err rfl

/-- A query whose second line has a form that no bracket holds. The form is refused at its point. -/
theorem pointAt_gives_coordinates_of_second_line :
    ∃ source, source = Bytes.ofText "(x)\n (#a?)" ∧
      pointAt source 3 < pointAt source 4 ∧ pointAt source 99 = pointAt source 10 ∧
      lineStart source 1 + 1 = 5 ∧
      (source.splitOn Ascii.newline)[1]? = some (Bytes.ofText " (#a?)") ∧
      (source.drop (lineStart source 1)).take 6 = Bytes.ofText " (#a?)" ∧
      pointAt source 5 = ⟨0 + 1, 1⟩ ∧
      ∃ err, (PatternQuery.compile (refusingEngine ⟨.structural, 0⟩) default source
          (⟨[], 0⟩ : RegexCache .standard fun _ => 0)).run () = ((.error err, ⟨[], 0⟩), ()) ∧
        err.offset = 5 ∧ err.point = ⟨1, 1⟩ := by
  obtain ⟨increases, stays, places, lines, behind, -, -, errors⟩ :=
    pointAt_gives_coordinates (Bytes.ofText "(x)\n (#a?)")
  have second : ((Bytes.ofText "(x)\n (#a?)").splitOn Ascii.newline)[1]? =
      some (Bytes.ofText " (#a?)") := by decide
  have placed : pointAt (Bytes.ofText "(x)\n (#a?)") 5 = ⟨1, 1⟩ := by decide
  have offset := (places 5 (by decide)).1
  rw [placed] at offset
  have refused : extract (Bytes.ofText "(x)\n (#a?)") =
      .error (Defect.report ⟨.impossibleStructure, 5⟩ (Bytes.ofText "(x)\n (#a?)")) := by
    decide +kernel
  have run : (PatternQuery.compile (refusingEngine ⟨.structural, 0⟩) default _
      (⟨[], 0⟩ : RegexCache .standard fun _ => 0)).run () = ((.error _, ⟨[], 0⟩), ()) :=
    PatternQuery.run_compile_of_extract_error refused
  exact ⟨_, rfl, increases 3 4 (by decide) (by decide), stays 99 (by decide), offset, second,
    (lines 1 _ second).1, behind (Bytes.ofText "(x)") (Bytes.ofText "\n (#a?)") 2 (by decide)
      (by decide), _, run, rfl, (errors _ _ _ _ _ _ _ run).trans placed⟩

end SyntaxForest
