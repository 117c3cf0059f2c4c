import SyntaxForest.Proofs.Query.Predicates
import SyntaxForest.Proofs.Regex.CacheHistory

/-!
# Deciding whether a form is a predicate

Validation accepts exactly the forms that are predicates and gives the predicate that they spell.
Every other form is refused for the first condition that it fails, at the byte where it fails it.
The cache of patterns has no say in this.

Arguments are looked at by position only once their number is known. Reading them so, with a test of
the number in front, never asks for an argument behind the last one.

## Main definitions

* `Predicate.byPosition?`: validation that reads arguments by their positions

## Main results

* `Predicate.ofRaw_of_spells`, `Predicate.ofRaw_of_refused`: what validation makes of a form
* `Predicate.byPosition?_eq`: reading by position never leaves the arguments
* `Predicate.ofRaw_decides_form`: validation accepts the predicates and reports the first failure
-/

namespace SyntaxForest.Query

open RegexCache

/-! ## Finding captures -/

section Captures

variable {index? : Bytes → Option Nat} {arguments : List Argument} {source : Bytes}

theorem Argument.Finds.resolve_eq {a : Argument} {operand : Operand} (h : a.Finds index? operand) :
    a.resolve source index? = .ok operand := by
  cases h with
  | capture found => simp only [resolve, found]
  | literal => rfl

/-- Operands that are found for all arguments are what the captures resolve to. -/
theorem RawPredicate.resolveAll_of_finds {operands : List Operand}
    (h : List.Forall₂ (Argument.Finds index?) arguments operands) :
    resolveAll source index? arguments = .ok (arguments.zip operands) := by
  induction h with
  | nil => rfl
  | cons first rest ih => simp only [resolveAll, first.resolve_eq, ih, List.zip_cons_cons]

/-- The first capture that is not known is reported. -/
theorem RawPredicate.resolveAll_of_isFirstFailure {a : Argument}
    (h : IsFirstFailure (fun _ => Argument.IsKnown index?) arguments a) :
    resolveAll source index? arguments =
      .error (.positioned source a.offset .unknownCapture) := by
  obtain ⟨i, here, unknown, before⟩ := h
  -- The position of the failure goes down by one with every argument that is passed.
  induction arguments generalizing i with
  | nil => cases here
  | cons b arguments ih =>
    cases i with
    | zero =>
      obtain rfl : b = a := Option.some.inj here
      obtain ⟨name, offset, rfl, none⟩ := Argument.eq_capture_of_not_isKnown unknown
      simp only [resolveAll, Argument.resolve, none, Argument.offset]
    | succ i =>
      obtain ⟨operand, first⟩ := before 0 (Nat.succ_pos i) b rfl
      have rest := ih i here unknown fun j hj c hc => before (j + 1) (Nat.succ_lt_succ hj) c hc
      simp only [resolveAll, first.resolve_eq, rest]

end Captures

/-! ## Operators and arguments that do not suit them -/

namespace RawPredicate

section Unsuited

variable {index? : Bytes → Option Nat} {raw : RawPredicate} {source name : Bytes}
  {resolved : List (Argument × Operand)} {arguments : List Argument} {operands : List Operand}
  {a : Argument}

theorem toEq_of_length_ne {negated : Bool} (count : resolved.length ≠ 2) :
    raw.toEq source name negated resolved = .error (raw.wrongArity source name "2") := by
  unfold toEq
  split
  next => exact absurd rfl count
  next => exact absurd rfl count
  next => rfl

theorem toMatch_of_length_ne (count : resolved.length ≠ 2) :
    raw.toMatch source name resolved = .error (raw.wrongArity source name "2") := by
  unfold toMatch
  split
  next => exact absurd rfl count
  next => exact absurd rfl count
  next => exact absurd rfl count
  next => rfl

theorem toProperty_of_length_ne {kind : PropertyKind}
    (count : ¬ (resolved.length = 1 ∨ resolved.length = 2)) :
    raw.toProperty source name kind resolved = .error (raw.wrongArity source name "1 or 2") := by
  unfold toProperty
  split
  next => exact absurd (.inl rfl) count
  next => exact absurd (.inr rfl) count
  next => exact absurd (.inr rfl) count
  next => exact absurd (.inl rfl) count
  next => exact absurd (.inr rfl) count
  next => rfl

variable (finds : List.Forall₂ (Argument.Finds index?) arguments operands)

include finds

/-- Equality refuses a string in the first place. -/
theorem toEq_of_isFirstFailure {negated : Bool} (count : arguments.length = 2)
    (first : IsFirstFailure (Operator.eq negated).Admits arguments a) :
    ∃ ordinal expected, raw.toEq source name negated (arguments.zip operands) =
      .error (wrongKind source name a ordinal expected) := by
  obtain ⟨x, y, rfl⟩ := List.length_eq_two.mp count
  obtain ⟨i, here, fails, -⟩ := first
  obtain ⟨rfl, notCapture⟩ : i = 0 ∧ ¬ a.IsCapture := by simpa [Operator.Admits] using fails
  obtain rfl : x = a := Option.some.inj here
  obtain ⟨value, offset, rfl⟩ := Argument.eq_literal notCapture
  obtain _ | ⟨⟨⟩, _ | ⟨-, ⟨⟩⟩⟩ := finds
  exact ⟨_, _, rfl⟩

/-- A test for a regular expression refuses a string in the first place and a capture in the
second. -/
theorem toMatch_of_isFirstFailure {negated : Bool} (count : arguments.length = 2)
    (first : IsFirstFailure (Operator.isMatch negated).Admits arguments a) :
    ∃ ordinal expected, raw.toMatch source name (arguments.zip operands) =
      .error (wrongKind source name a ordinal expected) := by
  obtain ⟨x, y, rfl⟩ := List.length_eq_two.mp count
  obtain ⟨i, here, fails, before⟩ := first
  obtain _ | ⟨first, _ | ⟨second, ⟨⟩⟩⟩ := finds
  -- Where the second argument fails, the first one has passed and is a capture.
  match i with
  | 0 =>
    obtain rfl : x = a := Option.some.inj here
    have notCapture : ¬ x.IsCapture := by simpa [Operator.Admits] using fails
    obtain ⟨value, offset, rfl⟩ := Argument.eq_literal notCapture
    cases first
    exact ⟨_, _, rfl⟩
  | 1 =>
    obtain rfl : y = a := Option.some.inj here
    obtain ⟨c, offset, rfl⟩ := Argument.eq_capture ((before 0 Nat.one_pos x rfl).mp rfl)
    have isCapture : y.IsCapture := by simpa [Operator.Admits] using fails
    obtain ⟨c', offset', rfl⟩ := Argument.eq_capture isCapture
    cases first
    cases second
    exact ⟨_, _, rfl⟩
  | i + 2 => cases here

/-- A property refuses captures. -/
theorem toProperty_of_isFirstFailure {kind : PropertyKind}
    (count : arguments.length = 1 ∨ arguments.length = 2)
    (first : IsFirstFailure (Operator.property kind).Admits arguments a) :
    ∃ ordinal expected, raw.toProperty source name kind (arguments.zip operands) =
      .error (wrongKind source name a ordinal expected) := by
  obtain ⟨i, here, fails, before⟩ := first
  have isCapture : a.IsCapture := not_not.mp fails
  rcases count with one | two
  · obtain ⟨x, rfl⟩ := List.length_eq_one_iff.mp one
    obtain _ | ⟨found, ⟨⟩⟩ := finds
    match i with
    | 0 =>
      obtain rfl : x = a := Option.some.inj here
      obtain ⟨c, offset, rfl⟩ := Argument.eq_capture isCapture
      cases found
      exact ⟨_, _, rfl⟩
    | i + 1 => cases here
  · obtain ⟨x, y, rfl⟩ := List.length_eq_two.mp two
    obtain _ | ⟨found, _ | ⟨found', ⟨⟩⟩⟩ := finds
    match i with
    | 0 =>
      obtain rfl : x = a := Option.some.inj here
      obtain ⟨c, offset, rfl⟩ := Argument.eq_capture isCapture
      cases found
      exact ⟨_, _, rfl⟩
    | 1 =>
      obtain rfl : y = a := Option.some.inj here
      obtain ⟨c, offset, rfl⟩ := Argument.eq_capture isCapture
      obtain ⟨key, offset', rfl⟩ := Argument.eq_literal (before 0 Nat.one_pos x rfl)
      cases found
      cases found'
      exact ⟨_, _, rfl⟩
    | i + 2 => cases here

end Unsuited

end RawPredicate

/-! ## Validation -/

section Validation

variable {dialect : Regex.Dialect} {hash : Bytes → UInt64} {index? : Bytes → Option Nat}
  {raw : RawPredicate} {source name : Bytes} {cache : RegexCache dialect hash}
  {operands : List Operand}

theorem getOrCompile_fst (faithful : cache.IsFaithful) (pattern : Bytes) :
    (cache.getOrCompile pattern).1 = dialect.compile pattern := by
  obtain ⟨d, answered, -⟩ := answers_getOrCompile pattern cache faithful
  exact congrArg Prod.fst answered

section Stages

/-! Once the captures are found, the operator decides what becomes of the arguments. -/

variable (named : raw.operator = some name)
  (finds : List.Forall₂ (Argument.Finds index?) raw.arguments operands)

include named finds

theorem Predicate.ofRaw_eq_toEq {negated : Bool} (stands : (Operator.eq negated).IsNamed name) :
    (Predicate.ofRaw raw source index? cache).1 =
      raw.toEq source name negated (raw.arguments.zip operands) := by
  simp only [ofRaw, named, RawPredicate.resolveAll_of_finds finds,
    Operator.ofName_eq_iff.mpr stands]

theorem Predicate.ofRaw_eq_toProperty {kind : PropertyKind}
    (stands : (Operator.property kind).IsNamed name) :
    (Predicate.ofRaw raw source index? cache).1 =
      raw.toProperty source name kind (raw.arguments.zip operands) := by
  simp only [ofRaw, named, RawPredicate.resolveAll_of_finds finds,
    Operator.ofName_eq_iff.mpr stands]

theorem Predicate.ofRaw_eq_toMatch (faithful : cache.IsFaithful) {negated : Bool}
    (stands : (Operator.isMatch negated).IsNamed name) :
    (Predicate.ofRaw raw source index? cache).1 =
      match raw.toMatch source name (raw.arguments.zip operands) with
      | .error e => .error e
      | .ok (i, a, pattern) =>
        match dialect.compile pattern with
        | .error reason => .error (RawPredicate.invalidRegex source name a.offset reason)
        | .ok regex => .ok (.isMatch i regex negated) := by
  simp only [ofRaw, named, RawPredicate.resolveAll_of_finds finds,
    Operator.ofName_eq_iff.mpr stands]
  cases raw.toMatch source name (raw.arguments.zip operands) with
  | error e => rfl
  | ok found =>
    -- The cache answers as compiling does, so the cache behind it is all that can differ.
    simp only [← getOrCompile_fst faithful]
    cases cache.getOrCompile found.2.2 with
    | mk outcome cache' => cases outcome <;> rfl

theorem Predicate.ofRaw_eq_unknown (unnamed : ∀ op : Operator, op.name? ≠ some name) :
    (Predicate.ofRaw raw source index? cache).1 = .ok (.unknown name operands) := by
  have other := Operator.ofName_eq_iff.mpr (.inr ⟨rfl, unnamed⟩)
  simp only [ofRaw, named, RawPredicate.resolveAll_of_finds finds, other,
    List.map_snd_zip (Nat.le_of_eq finds.length_eq.symm)]

end Stages

/-- What a form spells, validation gives. -/
theorem Predicate.ofRaw_of_spells (faithful : cache.IsFaithful) {p : Predicate}
    (h : raw.Spells dialect index? p) : (Predicate.ofRaw raw source index? cache).1 = .ok p := by
  cases h with
  | @eq negated capture offset left argument right named written found finds =>
    obtain ⟨name, same⟩ := Operator.exists_name? (.eq negated) nofun
    have finds : List.Forall₂ (Argument.Finds index?) raw.arguments [.capture left, right] := by
      rw [written]
      exact .cons (.capture found) (.cons finds .nil)
    rw [ofRaw_eq_toEq (named.trans same) finds (.inl same), written]
    rfl
  | @isMatch negated capture pattern offset offset' i regex named written found compiled =>
    obtain ⟨name, same⟩ := Operator.exists_name? (.isMatch negated) nofun
    have finds : List.Forall₂ (Argument.Finds index?) raw.arguments
        [.capture i, .literal pattern] := by
      rw [written]
      exact .cons (.capture found) (.cons .literal .nil)
    rw [ofRaw_eq_toMatch (named.trans same) finds faithful (.inl same), written]
    simp only [List.zip_cons_cons, List.zip_nil_right, RawPredicate.toMatch, compiled]
  | @key kind key offset named written =>
    obtain ⟨name, same⟩ := Operator.exists_name? (.property kind) nofun
    have finds : List.Forall₂ (Argument.Finds index?) raw.arguments [.literal key] := by
      rw [written]
      exact .cons .literal .nil
    rw [ofRaw_eq_toProperty (named.trans same) finds (.inl same), written]
    rfl
  | @pair kind key value offset offset' named written =>
    obtain ⟨name, same⟩ := Operator.exists_name? (.property kind) nofun
    have finds : List.Forall₂ (Argument.Finds index?) raw.arguments
        [.literal key, .literal value] := by
      rw [written]
      exact .cons .literal (.cons .literal .nil)
    rw [ofRaw_eq_toProperty (named.trans same) finds (.inl same), written]
    rfl
  | unknown named unnamed finds => exact ofRaw_eq_unknown named finds unnamed

/-- An error in a wording of its own is of its kind and tells its place. -/
theorem exists_error_worded {α : Type} (source : Bytes) (offset : Nat) (kind : QueryError.Kind)
    (operator : Option Bytes) (message : String) :
    ∃ err, (.error (.worded source offset kind operator message) : Except QueryError α) =
        .error err ∧
      err.kind = kind ∧ err.offset = offset ∧ err.point = pointAt source offset :=
  ⟨_, rfl, rfl, rfl, QueryError.point_worded ..⟩

/-- The first condition that a form fails, validation reports where the form fails it. -/
theorem Predicate.ofRaw_of_refused (faithful : cache.IsFaithful) (source : Bytes)
    {kind : QueryError.Kind} {offset : Nat} (h : raw.Refused dialect index? kind offset) :
    ∃ err, (Predicate.ofRaw raw source index? cache).1 = .error err ∧ err.kind = kind ∧
      err.offset = offset ∧ err.point = pointAt source offset := by
  -- In each case the stages that come before have passed, so the failing one is reached.
  cases h with
  | malformed nameless =>
    rw [ofRaw, nameless]
    exact exists_error_worded ..
  | @unknownCapture name capture offset named first =>
    refine ⟨.positioned source offset .unknownCapture, ?_, rfl, rfl,
      QueryError.point_positioned ..⟩
    simp only [ofRaw, named, RawPredicate.resolveAll_of_isFirstFailure first, Argument.offset]
  | @wrongArity name op named stands known count =>
    obtain ⟨operands, finds⟩ := exists_operands known
    have length : (raw.arguments.zip operands).length = raw.arguments.length := by
      rw [List.length_zip, ← finds.length_eq, Nat.min_self]
    cases op with
    | eq negated =>
      rw [ofRaw_eq_toEq named finds stands, RawPredicate.toEq_of_length_ne (length ▸ count)]
      exact exists_error_worded ..
    | isMatch negated =>
      rw [ofRaw_eq_toMatch named finds faithful stands,
        RawPredicate.toMatch_of_length_ne (length ▸ count)]
      exact exists_error_worded ..
    | property kind =>
      rw [ofRaw_eq_toProperty named finds stands,
        RawPredicate.toProperty_of_length_ne (length ▸ count)]
      exact exists_error_worded ..
    | other => exact absurd trivial count
  | @wrongKind name op a named stands known count first =>
    obtain ⟨operands, finds⟩ := exists_operands known
    cases op with
    | eq negated =>
      obtain ⟨_, _, refused⟩ := RawPredicate.toEq_of_isFirstFailure finds count first
      rw [ofRaw_eq_toEq named finds stands, refused]
      exact exists_error_worded ..
    | isMatch negated =>
      obtain ⟨_, _, refused⟩ := RawPredicate.toMatch_of_isFirstFailure finds count first
      rw [ofRaw_eq_toMatch named finds faithful stands, refused]
      exact exists_error_worded ..
    | property kind =>
      obtain ⟨_, _, refused⟩ := RawPredicate.toProperty_of_isFirstFailure finds count first
      rw [ofRaw_eq_toProperty named finds stands, refused]
      exact exists_error_worded ..
    | other => exact absurd trivial first.choose_spec.2.1
  | @invalidRegex name negated capture pattern offset reason named stands written known isCapture
      invalid =>
    obtain ⟨c, o, rfl⟩ := Argument.eq_capture isCapture
    obtain ⟨i, found⟩ := known
    have finds : List.Forall₂ (Argument.Finds index?) raw.arguments [i, .literal pattern] := by
      rw [written]
      exact .cons found (.cons .literal .nil)
    cases found
    rw [ofRaw_eq_toMatch named finds faithful stands, written]
    simp only [List.zip_cons_cons, List.zip_nil_right, RawPredicate.toMatch, invalid,
      Argument.offset]
    exact exists_error_worded ..

/-- Validation gives a predicate exactly where the form spells it. -/
theorem Predicate.ofRaw_eq_ok_iff (faithful : cache.IsFaithful) {p : Predicate} :
    (Predicate.ofRaw raw source index? cache).1 = .ok p ↔ raw.Spells dialect index? p := by
  refine ⟨fun h => ?_, ofRaw_of_spells faithful⟩
  rcases raw.isPredicate_or_refused dialect index? with isPredicate | ⟨kind, offset, refused⟩
  · obtain ⟨p', spells⟩ := isPredicate.exists_spells
    obtain rfl := Except.ok.inj (h.symm.trans (ofRaw_of_spells faithful spells))
    exact spells
  · obtain ⟨err, failed, -⟩ := ofRaw_of_refused faithful source refused
    cases h.symm.trans failed

/-- Validation fails exactly where the form fails a condition, and reports the first. -/
theorem Predicate.ofRaw_eq_error_iff (faithful : cache.IsFaithful) {kind : QueryError.Kind}
    {offset : Nat} :
    (∃ err, (Predicate.ofRaw raw source index? cache).1 = .error err ∧ err.kind = kind ∧
      err.offset = offset) ↔ raw.Refused dialect index? kind offset := by
  refine ⟨?_, fun refused => ?_⟩
  case refine_2 =>
    obtain ⟨err, failed, sameKind, sameOffset, -⟩ := ofRaw_of_refused faithful source refused
    exact ⟨err, failed, sameKind, sameOffset⟩
  rintro ⟨err, h, rfl, rfl⟩
  rcases raw.isPredicate_or_refused dialect index? with isPredicate | ⟨kind, offset, refused⟩
  · obtain ⟨p, spells⟩ := isPredicate.exists_spells
    cases h.symm.trans (ofRaw_of_spells faithful spells)
  · obtain ⟨err', failed, rfl, rfl, -⟩ := ofRaw_of_refused faithful source refused
    obtain rfl := Except.error.inj (h.symm.trans failed)
    exact refused

end Validation

/-! ## Reading arguments by their positions -/

/-- The argument at a position, with what has been found for it. There is no outcome at all when the
position is behind the last argument. -/
def argumentAt (resolved : List (Argument × Operand)) (i : Nat) :
    ExceptT QueryError Option (Argument × Operand) :=
  (resolved[i]? : Option (Argument × Operand))

namespace RawPredicate

/-- The capture at a position. -/
def captureAt (source name : Bytes) (resolved : List (Argument × Operand)) (i : Nat)
    (ordinal : String) : ExceptT QueryError Option Nat := do
  match ← argumentAt resolved i with
  | (_, .capture index) => return index
  | (a, .literal _) => throw (wrongKind source name a ordinal "a capture")

/-- The string at a position. -/
def stringAt (source name : Bytes) (resolved : List (Argument × Operand)) (i : Nat)
    (ordinal : String) : ExceptT QueryError Option Bytes := do
  match ← argumentAt resolved i with
  | (_, .literal value) => return value
  | (a, .capture _) => throw (wrongKind source name a ordinal "a string")

/-- The equality of the arguments at the first two positions. -/
def eqByPosition (raw : RawPredicate) (source name : Bytes) (negated : Bool)
    (resolved : List (Argument × Operand)) : ExceptT QueryError Option Predicate := do
  unless resolved.length = 2 do throw (raw.wrongArity source name "2")
  let left ← captureAt source name resolved 0 "first"
  let (_, right) ← argumentAt resolved 1
  return .eq left right negated

/-- The capture at the first position, and the argument and the pattern at the second. -/
def matchByPosition (raw : RawPredicate) (source name : Bytes)
    (resolved : List (Argument × Operand)) :
    ExceptT QueryError Option (Nat × Argument × Bytes) := do
  unless resolved.length = 2 do throw (raw.wrongArity source name "2")
  let capture ← captureAt source name resolved 0 "first"
  let pattern ← stringAt source name resolved 1 "second"
  let (argument, _) ← argumentAt resolved 1
  return (capture, argument, pattern)

/-- The property of the strings at the first position and, if it is taken, the second. -/
def propertyByPosition (raw : RawPredicate) (source name : Bytes) (kind : PropertyKind)
    (resolved : List (Argument × Operand)) : ExceptT QueryError Option Predicate := do
  unless resolved.length = 1 ∨ resolved.length = 2 do throw (raw.wrongArity source name "1 or 2")
  let key ← stringAt source name resolved 0 "first"
  match resolved[1]? with
  | none => return .property kind key none
  | some _ => return .property kind key (some (← stringAt source name resolved 1 "second"))

section

variable {raw : RawPredicate} {source name : Bytes} {resolved : List (Argument × Operand)}

theorem eqByPosition_eq {negated : Bool} :
    (raw.eqByPosition source name negated resolved).run =
      some (raw.toEq source name negated resolved) := by
  by_cases count : resolved.length = 2
  · obtain ⟨⟨a, x⟩, ⟨b, y⟩, rfl⟩ := List.length_eq_two.mp count
    cases x <;> rfl
  · rw [toEq_of_length_ne count, eqByPosition]
    simp [count]

theorem matchByPosition_eq :
    (raw.matchByPosition source name resolved).run = some (raw.toMatch source name resolved) := by
  by_cases count : resolved.length = 2
  · obtain ⟨⟨a, x⟩, ⟨b, y⟩, rfl⟩ := List.length_eq_two.mp count
    cases x <;> cases y <;> rfl
  · rw [toMatch_of_length_ne count, matchByPosition]
    simp [count]

theorem propertyByPosition_eq {kind : PropertyKind} :
    (raw.propertyByPosition source name kind resolved).run =
      some (raw.toProperty source name kind resolved) := by
  by_cases count : resolved.length = 1 ∨ resolved.length = 2
  · rcases count with one | two
    · obtain ⟨⟨a, x⟩, rfl⟩ := List.length_eq_one_iff.mp one
      cases x <;> rfl
    · obtain ⟨⟨a, x⟩, ⟨b, y⟩, rfl⟩ := List.length_eq_two.mp two
      cases x <;> cases y <;> rfl
  · rw [toProperty_of_length_ne count, propertyByPosition]
    simp [count]

end

end RawPredicate

/-- Validation that reads arguments by their positions, behind a test of their number. There is no
outcome when a position behind the last argument is read. -/
def Predicate.byPosition? {dialect : Regex.Dialect} {hash : Bytes → UInt64} (raw : RawPredicate)
    (source : Bytes) (index? : Bytes → Option Nat) (cache : RegexCache dialect hash) :
    Option (Except QueryError Predicate × RegexCache dialect hash) :=
  match raw.operator with
  | none => some (.error (raw.malformed source), cache)
  | some name =>
    match RawPredicate.resolveAll source index? raw.arguments with
    | .error e => some (.error e, cache)
    | .ok resolved =>
      match Operator.ofName name with
      | .eq negated => (raw.eqByPosition source name negated resolved).run.map (·, cache)
      | .property kind => (raw.propertyByPosition source name kind resolved).run.map (·, cache)
      | .other => some (.ok (.unknown name (resolved.map (·.2))), cache)
      | .isMatch negated =>
        (raw.matchByPosition source name resolved).run.map fun
          | .error e => (.error e, cache)
          | .ok (capture, argument, pattern) =>
            match cache.getOrCompile pattern with
            | (.error reason, cache) =>
              (.error (RawPredicate.invalidRegex source name argument.offset reason), cache)
            | (.ok regex, cache) => (.ok (.isMatch capture regex negated), cache)

/-- **Reading by position never leaves the arguments**, whatever their number is, and gives what
validation gives. -/
theorem Predicate.byPosition?_eq {dialect : Regex.Dialect} {hash : Bytes → UInt64}
    (raw : RawPredicate) (source : Bytes) (index? : Bytes → Option Nat)
    (cache : RegexCache dialect hash) :
    Predicate.byPosition? raw source index? cache =
      some (Predicate.ofRaw raw source index? cache) := by
  unfold byPosition? ofRaw
  cases raw.operator with
  | none => rfl
  | some name =>
  dsimp only
  cases RawPredicate.resolveAll source index? raw.arguments with
  | error e => rfl
  | ok resolved =>
  dsimp only
  cases Operator.ofName name with
  | eq negated => simp only [RawPredicate.eqByPosition_eq, Option.map_some]
  | property kind => simp only [RawPredicate.propertyByPosition_eq, Option.map_some]
  | other => rfl
  | isMatch negated => exact congrArg (Option.map _) RawPredicate.matchByPosition_eq

/-! ## The decision -/

/-- **Validation accepts exactly the forms that are predicates**, in any dialect of regular
expressions. The cache of patterns may be behind any calls. A form is accepted exactly when it has
an operator, its captures exist and its arguments suit the operator, and the predicate is the one
that the form spells, with its captures and strings in order and the operator's negation or kind. It
is refused for the first condition that it fails, at the byte where it fails it. Reading the
arguments by position comes to the same, as none is ever read behind the last one. -/
theorem Predicate.ofRaw_decides_form (dialect : Regex.Dialect) (hash : Bytes → UInt64)
    (capacity : Nat) (calls : List Call) (raw : RawPredicate) (source : Bytes)
    (index? : Bytes → Option Nat) :
    ((∃ p, (Predicate.ofRaw raw source index? (afterCalls dialect hash capacity calls)).1 = .ok p) ↔
      raw.IsPredicate dialect index?) ∧
    (∀ p, (Predicate.ofRaw raw source index? (afterCalls dialect hash capacity calls)).1 = .ok p ↔
      raw.Spells dialect index? p) ∧
    (∀ kind offset,
      (∃ err, (Predicate.ofRaw raw source index? (afterCalls dialect hash capacity calls)).1 =
          .error err ∧ err.kind = kind ∧ err.offset = offset) ↔
            raw.Refused dialect index? kind offset) ∧
    Predicate.byPosition? raw source index? (afterCalls dialect hash capacity calls) =
      some (Predicate.ofRaw raw source index? (afterCalls dialect hash capacity calls)) := by
  have faithful := isFaithful_afterCalls dialect hash capacity calls
  refine ⟨?_, fun p => ofRaw_eq_ok_iff faithful, fun kind offset => ofRaw_eq_error_iff faithful,
    byPosition?_eq raw source index? _⟩
  rw [RawPredicate.isPredicate_iff]
  exact exists_congr fun p => ofRaw_eq_ok_iff faithful

end SyntaxForest.Query
