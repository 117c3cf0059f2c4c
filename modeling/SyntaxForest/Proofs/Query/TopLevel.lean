import SyntaxForest.Proofs.Query.Reading

/-!
# Bracketed forms of the top level

The pieces of a query between a bracket that opens outside all others and the bracket that closes it
make up a form of the top level. Predicate forms stand inside brackets, so each belongs to exactly
one form of the top level, between its two brackets.

## Main definitions

* `TopForm`, `topForms`: the forms of the top level, with the predicate forms in each

## Main results

* `flatMap_predicates_topForms`: the predicate forms, top-level form by top-level form, are those of
  the query in source order
* `encloses_of_mem_topForms`: a predicate form lies between the brackets of its top-level form
* `Reading.pairwise_formsOf`: predicate forms come at increasing offsets
-/

namespace SyntaxForest.Query

/-- A bracketed form of the top level. -/
structure TopForm where
  /-- The offset of the bracket that opens it. -/
  start : Nat
  /-- The offset of the bracket that closes it, or of the end of the text when none does. -/
  stop : Nat
  /-- The predicate forms between the brackets. -/
  predicates : List RawPredicate
  deriving DecidableEq, Repr

/-- The form goes on with a piece. -/
def TopForm.extend (t : TopForm) (p : Piece) : TopForm :=
  ⟨t.start, p.offset + p.text.length, t.predicates ++ p.form.toList⟩

/-- The forms of the top level among the pieces, given the one that is open before them. A piece
outside all brackets opens one when a bracket is open behind it; a piece inside closes the open one
when no bracket is. -/
def topFormsFrom : Option TopForm → List Piece → List TopForm
  | current, [] => current.toList
  | none, p :: ps =>
    if p.behind = 0 then topFormsFrom none ps
    else topFormsFrom (some ⟨p.offset, p.offset + p.text.length, []⟩) ps
  | some t, p :: ps =>
    if p.behind = 0 then { t with stop := p.offset } :: topFormsFrom none ps
    else topFormsFrom (some (t.extend p)) ps

/-- The forms of the top level of a query. -/
def topForms (source : Bytes) : List TopForm :=
  match pieces 0 0 source with
  | .ok ps => topFormsFrom none ps
  | .error _ => []

theorem Reading.topForms_eq {source : Bytes} {ps : List Piece} (h : Reading 0 0 source ps) :
    topForms source = topFormsFrom none ps := by
  rw [topForms, h.pieces_eq]

section

variable {depth offset : Nat} {text : Bytes} {ps : List Piece}

/-- A predicate form carries the offset where it was read. -/
theorem offset_of_readForm_eq {rest : Bytes} {form : RawPredicate} {n : Nat}
    (h : readForm offset rest = .ok (form, n)) : form.offset = offset := by
  unfold readForm at h
  dsimp only at h
  split at h
  next => cases h
  next => cases h; rfl

/-- A predicate form is read inside a bracket, which stays open, at its own offset. -/
theorem Step.of_form_eq_some {b : UInt8} {rest : Bytes} {l : Lexeme} {raw : RawPredicate}
    (h : Step depth offset rest b l) (isForm : l.form = some raw) :
    0 < depth ∧ l.depth = depth ∧ raw.offset = offset := by
  cases h with
  | form opens inside read =>
    cases isForm
    exact ⟨inside, rfl, offset_of_readForm_eq read⟩
  | _ => cases isForm

/-- No predicate form is read where no bracket is open, before the step or behind it. -/
theorem Step.form_eq_none {b : UInt8} {rest : Bytes} {l : Lexeme}
    (h : Step depth offset rest b l) (outside : depth = 0 ∨ l.depth = 0) : l.form = none := by
  cases hf : l.form with
  | none => rfl
  | some raw =>
    have := h.of_form_eq_some hf
    omega

/-! ## Order -/

/-- Predicate forms come at increasing offsets, none before the text. -/
theorem Reading.pairwise_formsOf (h : Reading depth offset text ps) :
    (formsOf ps).Pairwise (·.offset < ·.offset) ∧ ∀ raw ∈ formsOf ps, offset ≤ raw.offset := by
  induction h with
  | nil => exact ⟨.nil, by simp⟩
  | @cons depth offset b rest l ps step tail ih =>
    obtain ⟨sorted, after⟩ := ih
    cases hf : l.form with
    | none =>
      have same : formsOf (l.piece depth offset b rest :: ps) = formsOf ps := by
        simp [formsOf_cons, hf]
      rw [same]
      exact ⟨sorted, fun raw hraw => by have := after raw hraw; omega⟩
    | some raw =>
      obtain ⟨-, -, here⟩ := step.of_form_eq_some hf
      have same : formsOf (l.piece depth offset b rest :: ps) = raw :: formsOf ps := by
        simp [formsOf_cons, hf]
      rw [same]
      refine ⟨List.pairwise_cons.mpr ⟨fun raw' h' => ?_, sorted⟩, fun raw' h' => ?_⟩
      · have := after raw' h'
        omega
      · rcases List.mem_cons.mp h' with rfl | h'
        · exact Nat.le_of_eq here.symm
        · have := after raw' h'
          omega

/-! ## Enclosure -/

/-- Grouping by top-level forms loses, repeats and moves no predicate form: the forms so far and
those of the pieces come out in order. -/
theorem Reading.flatMap_predicates_topFormsFrom (h : Reading depth offset text ps)
    {current : Option TopForm} (isOpen : current.isSome = true ↔ 0 < depth) :
    (topFormsFrom current ps).flatMap TopForm.predicates =
      (current.map TopForm.predicates).getD [] ++ formsOf ps := by
  -- A top-level form is open exactly where a bracket is, so that a piece outside is no form.
  induction h generalizing current with
  | nil => cases current <;> simp [topFormsFrom]
  | @cons depth offset b rest l ps step tail ih =>
    cases current with
    | none =>
      have outside : depth = 0 := by
        simp only [Option.isSome_none, Bool.false_eq_true, false_iff] at isOpen
        omega
      have plain := step.form_eq_none (.inl outside)
      have same : formsOf (l.piece depth offset b rest :: ps) = formsOf ps := by
        simp [formsOf_cons, plain]
      by_cases closed : (l.piece depth offset b rest).behind = 0
      · have outside' : l.depth = 0 := closed
        rw [topFormsFrom, if_pos closed, ih (by simp [outside']), same]
      · have inside : 0 < l.depth := Nat.pos_of_ne_zero closed
        rw [topFormsFrom, if_neg closed, ih (by simp [inside]), same]
        simp
    | some t =>
      by_cases closed : (l.piece depth offset b rest).behind = 0
      · have outside : l.depth = 0 := closed
        have plain := step.form_eq_none (.inr outside)
        rw [topFormsFrom, if_pos closed, List.flatMap_cons, ih (by simp [outside])]
        simp [formsOf_cons, plain]
      · have inside : 0 < l.depth := Nat.pos_of_ne_zero closed
        rw [topFormsFrom, if_neg closed, ih (by simp [inside])]
        simp [TopForm.extend, formsOf_cons]

/-- The predicate forms, top-level form by top-level form, are those of the query in source
order. -/
theorem flatMap_predicates_topForms {source : Bytes} {e : Extraction}
    (h : extract source = .ok e) :
    (topForms source).flatMap TopForm.predicates = e.predicates := by
  obtain ⟨ps, reading, rfl⟩ := extract_eq_ok_iff.mp h
  rw [reading.topForms_eq, reading.flatMap_predicates_topFormsFrom (by simp)]
  simp

/-- The predicate forms of a top-level form lie between its brackets. -/
def TopForm.Encloses (t : TopForm) : Prop :=
  ∀ raw ∈ t.predicates, t.start < raw.offset ∧ raw.offset < t.stop

theorem Reading.encloses_of_mem_topFormsFrom (h : Reading depth offset text ps)
    {current : Option TopForm}
    (before : ∀ t ∈ current, t.Encloses ∧ t.start < offset ∧ t.stop ≤ offset) :
    ∀ t ∈ topFormsFrom current ps, t.Encloses := by
  -- The open top-level form encloses what it has so far, and all of it lies before the offset.
  induction h generalizing current with
  | nil =>
    intro t ht
    rw [topFormsFrom, Option.mem_toList] at ht
    exact (before t ht).1
  | @cons depth offset b rest l ps step tail ih =>
    have reached := l.piece_end_le depth offset b rest
    cases current with
    | none =>
      rw [topFormsFrom]
      split
      · exact ih (by simp)
      · refine ih fun t ht => ?_
        obtain rfl := Option.some.inj ht
        refine ⟨fun raw hraw => by simp at hraw, ?_, reached⟩
        simp only [Lexeme.piece_offset]
        omega
    | some t =>
      obtain ⟨encloses, starts, stops⟩ := before t rfl
      rw [topFormsFrom]
      split
      · intro t' ht'
        rcases List.mem_cons.mp ht' with rfl | ht'
        · -- The closing bracket stands behind everything read so far.
          intro raw hraw
          obtain ⟨after, inside⟩ := encloses raw hraw
          exact ⟨after, Nat.lt_of_lt_of_le inside stops⟩
        · exact ih (by simp) t' ht'
      · refine ih fun t' ht' => ?_
        obtain rfl := Option.some.inj ht'
        refine ⟨fun raw hraw => ?_, ?_, reached⟩
        · rcases List.mem_append.mp hraw with hraw | hraw
          · obtain ⟨after, inside⟩ := encloses raw hraw
            refine ⟨after, ?_⟩
            simp only [TopForm.extend, Lexeme.piece_offset, Lexeme.piece_text, List.length_cons]
            omega
          · obtain ⟨-, -, here⟩ := step.of_form_eq_some (Option.mem_toList.mp hraw)
            refine ⟨by simp only [TopForm.extend]; omega, ?_⟩
            simp only [TopForm.extend, Lexeme.piece_offset, Lexeme.piece_text, List.length_cons]
            omega
        · simp only [TopForm.extend]
          omega

/-- A predicate form lies between the brackets of its top-level form. -/
theorem encloses_of_mem_topForms {source : Bytes} {t : TopForm} (h : t ∈ topForms source) :
    t.Encloses := by
  unfold topForms at h
  split at h
  next hp => exact (Reading.of_pieces_eq hp).encloses_of_mem_topFormsFrom (by simp) t h
  next => simp at h

end

end SyntaxForest.Query
