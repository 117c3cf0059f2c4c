import SyntaxForest.Query.Pattern

/-!
# Validated predicates

The predicates of a list of forms, in order and apart from the patterns that they are attached to.
The validation stops at the first form that is no predicate; it never complains about the structure
of the query, which is the engine's matter.

## Main definitions

* `validate`: the predicates of all forms
* `Predicate.setting?`, `RawPredicate.setting?`: the pair that a predicate sets, and the pair that a
  form spells

## Main results

* `kind_ne_of_validate_eq`: no error of the validation is about structure
* `setting?_of_validate_eq`: predicates set what their forms spell
-/

namespace SyntaxForest.Query

/-- The predicates of all forms, in source order, or the first reason why a form is none. -/
def validate {dialect : Regex.Dialect} {hash : Bytes → UInt64} (source : Bytes)
    (captures : List Bytes) : List RawPredicate → RegexCache dialect hash →
      Except QueryError (List Predicate) × RegexCache dialect hash
  | [], cache => (.ok [], cache)
  | raw :: rest, cache =>
    match Predicate.ofRaw raw source (captureIndex? captures) cache with
    | (.error e, cache) => (.error e, cache)
    | (.ok predicate, cache) =>
      match validate source captures rest cache with
      | (.error e, cache) => (.error e, cache)
      | (.ok predicates, cache) => (.ok (predicate :: predicates), cache)

/-- The pair that a predicate sets. -/
def Predicate.setting? : Predicate → Option (Bytes × Option Bytes)
  | .property .set key value => some (key, value)
  | _ => none

/-- The pair that a form spells: the operator `set!` with a key, or with a key and a value. -/
def RawPredicate.setting? (raw : RawPredicate) : Option (Bytes × Option Bytes) :=
  if raw.operator = some (Bytes.ofText "set!") then
    match raw.arguments with
    | [.literal key _] => some (key, none)
    | [.literal key _, .literal value _] => some (key, some value)
    | _ => none
  else none

/-! ## Arguments -/

section Arguments

variable {source name : Bytes} {index? : Bytes → Option Nat} {raw : RawPredicate}
  {arguments : List Argument} {resolved : List (Argument × Operand)}

theorem Argument.eq_literal_of_resolve_eq {a : Argument} {value : Bytes}
    (h : a.resolve source index? = .ok (.literal value)) : ∃ offset, a = .literal value offset := by
  cases a with
  | literal v offset => cases h; exact ⟨offset, rfl⟩
  | capture n offset =>
    simp only [resolve] at h
    split at h <;> cases h

theorem kind_of_resolve_eq {a : Argument} {e : QueryError}
    (h : a.resolve source index? = .error e) : e.kind = .unknownCapture := by
  cases a with
  | literal v offset => cases h
  | capture n offset =>
    simp only [Argument.resolve] at h
    split at h <;> cases h
    rfl

theorem RawPredicate.resolveAll_nil (h : resolveAll source index? arguments = .ok []) :
    arguments = [] := by
  cases arguments with
  | nil => rfl
  | cons a rest =>
    simp only [resolveAll] at h
    split at h
    next => cases h
    next => split at h <;> cases h

theorem RawPredicate.resolveAll_cons {x : Argument × Operand}
    (h : resolveAll source index? arguments = .ok (x :: resolved)) :
    ∃ rest, arguments = x.1 :: rest ∧ x.1.resolve source index? = .ok x.2 ∧
      resolveAll source index? rest = .ok resolved := by
  cases arguments with
  | nil => cases h
  | cons a rest =>
    simp only [resolveAll] at h
    split at h
    next => cases h
    next o ho =>
      split at h
      next => cases h
      next os hos => cases h; exact ⟨rest, rfl, ho, hos⟩

theorem RawPredicate.kind_of_resolveAll_eq {e : QueryError}
    (h : resolveAll source index? arguments = .error e) : e.kind = .unknownCapture := by
  induction arguments with
  | nil => cases h
  | cons a rest ih =>
    simp only [resolveAll] at h
    split at h
    next hd => cases h; exact kind_of_resolve_eq hd
    next =>
      split at h
      next hrest => cases h; exact ih hrest
      next => cases h

/-- A property comes from one string or two. -/
theorem RawPredicate.toProperty_eq_ok {kind : PropertyKind} {p : Predicate}
    (all : resolveAll source index? arguments = .ok resolved)
    (h : raw.toProperty source name kind resolved = .ok p) :
    (∃ key offset, arguments = [.literal key offset] ∧ p = .property kind key none) ∨
    (∃ key offset value offset', arguments = [.literal key offset, .literal value offset'] ∧
      p = .property kind key (some value)) := by
  -- Resolving keeps the number of arguments and the strings among them.
  unfold toProperty at h
  split at h
  next a key =>
    cases h
    obtain ⟨rest, rfl, first, none⟩ := resolveAll_cons all
    obtain ⟨offset, rfl⟩ := Argument.eq_literal_of_resolve_eq first
    obtain rfl := resolveAll_nil none
    exact .inl ⟨key, offset, rfl, rfl⟩
  next a key b value =>
    cases h
    obtain ⟨rest, rfl, first, more⟩ := resolveAll_cons all
    obtain ⟨rest, rfl, second, none⟩ := resolveAll_cons more
    obtain ⟨offset, rfl⟩ := Argument.eq_literal_of_resolve_eq first
    obtain ⟨offset', rfl⟩ := Argument.eq_literal_of_resolve_eq second
    obtain rfl := resolveAll_nil none
    exact .inr ⟨key, offset, value, offset', rfl, rfl⟩
  all_goals cases h

end Arguments

/-! ## Operators -/

theorem Operator.ofName_set : Operator.ofName (Bytes.ofText "set!") = .property .set := by
  decide +kernel

theorem Operator.eq_of_ofName_eq_set {name : Bytes} (h : Operator.ofName name = .property .set) :
    name = Bytes.ofText "set!" := by
  -- The tests before the one for `set!` and behind it give other operators.
  unfold Operator.ofName at h
  split at h
  next => cases h
  split at h
  next => cases h
  split at h
  next => cases h
  split at h
  next => cases h
  split at h
  next same => exact same
  split at h
  next => cases h
  split at h <;> cases h

/-! ## One form -/

section Form

variable {dialect : Regex.Dialect} {hash : Bytes → UInt64} {source : Bytes}
  {index? : Bytes → Option Nat} {raw : RawPredicate} {cache cache' : RegexCache dialect hash}

/-- A predicate sets what its form spells. -/
theorem Predicate.setting?_of_ofRaw_eq {p : Predicate}
    (h : Predicate.ofRaw raw source index? cache = (.ok p, cache')) :
    p.setting? = raw.setting? := by
  unfold ofRaw at h
  split at h
  next => cases h
  next name hname =>
  split at h
  next => cases h
  next resolved all =>
  -- Only the operator `set!` makes a property that is set.
  have unset (op : Operator) (hop : Operator.ofName name = op) (ne : op ≠ .property .set) :
      raw.setting? = none := by
    refine if_neg fun isSet => ?_
    obtain rfl := Option.some.inj (hname.symm.trans isSet)
    exact ne (hop.symm.trans Operator.ofName_set)
  split at h
  next negated hop =>
    rw [unset _ hop nofun]
    have h := (Prod.mk.inj h).1
    unfold RawPredicate.toEq at h
    split at h <;> cases h
    rfl
  next kind hop =>
    have h := (Prod.mk.inj h).1
    rcases RawPredicate.toProperty_eq_ok all h with
      ⟨key, offset, one, rfl⟩ | ⟨key, offset, value, offset', two, rfl⟩
    · cases kind with
      | set =>
        have isSet := Operator.eq_of_ofName_eq_set hop
        simp [setting?, RawPredicate.setting?, hname, isSet, one]
      | _ => rw [unset _ hop nofun]; rfl
    · cases kind with
      | set =>
        have isSet := Operator.eq_of_ofName_eq_set hop
        simp [setting?, RawPredicate.setting?, hname, isSet, two]
      | _ => rw [unset _ hop nofun]; rfl
  next hop =>
    rw [unset _ hop nofun]
    cases h
    rfl
  next negated hop =>
    rw [unset _ hop nofun]
    split at h
    next => cases h
    next =>
      split at h <;> cases h
      rfl

/-- No form is refused for the structure of the query. -/
theorem Predicate.kind_ne_of_ofRaw_eq {e : QueryError}
    (h : Predicate.ofRaw raw source index? cache = (.error e, cache')) :
    e.kind ≠ .impossibleStructure := by
  -- Every way to refuse a form names its kind of error: no operator, an unknown capture, arguments
  -- that do not fit, or an expression that does not compile.
  unfold ofRaw at h
  split at h
  next => cases h; exact nofun
  next name hname =>
  split at h
  next all =>
    cases h
    rw [RawPredicate.kind_of_resolveAll_eq all]
    exact nofun
  next resolved all =>
  split at h
  next =>
    have h := (Prod.mk.inj h).1
    unfold RawPredicate.toEq at h
    split at h <;> cases h <;> exact nofun
  next =>
    have h := (Prod.mk.inj h).1
    unfold RawPredicate.toProperty at h
    split at h <;> cases h <;> exact nofun
  next => cases h
  next =>
    split at h
    next hm =>
      cases h
      unfold RawPredicate.toMatch at hm
      split at hm <;> cases hm <;> exact nofun
    next =>
      split at h <;> cases h
      exact nofun

end Form

/-! ## All forms -/

section Forms

variable {dialect : Regex.Dialect} {hash : Bytes → UInt64} {source : Bytes} {captures : List Bytes}
  {raws : List RawPredicate} {cache cache' : RegexCache dialect hash}

theorem length_of_validate_eq {predicates : List Predicate}
    (h : validate source captures raws cache = (.ok predicates, cache')) :
    predicates.length = raws.length := by
  induction raws generalizing cache predicates with
  | nil => cases h; rfl
  | cons raw rest ih =>
    simp only [validate] at h
    split at h
    next => cases h
    next =>
      split at h
      next => cases h
      next hrest => cases h; simp [ih hrest]

/-- Predicates set what their forms spell. -/
theorem setting?_of_validate_eq {predicates : List Predicate}
    (h : validate source captures raws cache = (.ok predicates, cache')) :
    ∀ x ∈ raws.zip predicates, x.2.setting? = x.1.setting? := by
  induction raws generalizing cache predicates with
  | nil => simp
  | cons raw rest ih =>
    simp only [validate] at h
    split at h
    next => cases h
    next hraw =>
      split at h
      next => cases h
      next hrest =>
        cases h
        intro x hx
        rcases List.mem_cons.mp hx with rfl | hx
        · exact Predicate.setting?_of_ofRaw_eq hraw
        · exact ih hrest x hx

/-- No form is refused for the structure of the query. -/
theorem kind_ne_of_validate_eq {e : QueryError}
    (h : validate source captures raws cache = (.error e, cache')) :
    e.kind ≠ .impossibleStructure := by
  induction raws generalizing cache with
  | nil => cases h
  | cons raw rest ih =>
    simp only [validate] at h
    split at h
    next hraw => cases h; exact Predicate.kind_ne_of_ofRaw_eq hraw
    next =>
      split at h
      next hrest => cases h; exact ih hrest
      next => cases h

end Forms

end SyntaxForest.Query
