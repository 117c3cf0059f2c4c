import Mathlib.Data.List.Forall2
import Mathlib.Data.Nat.Find
import Mathlib.Tactic.SplitIfs
import SyntaxForest.Query.Predicate

/-!
# Forms that are predicates

A form is a predicate when it has an operator, every capture in it exists, and its arguments suit
the operator in number, in kind and, where a pattern is due, in being a regular expression of the
dialect. Every other form fails one of these conditions first, and it fails it at a byte of its own.
Nothing here speaks of the validation, which is measured against these notions.

## Main definitions

* `Operator.name?`, `Operator.IsNamed`: the names of the operators
* `Operator.TakesCount`, `Operator.Admits`, `Operator.Fits`: what an operator asks of its arguments
* `RawPredicate.IsPredicate`, `RawPredicate.Spells`: the forms that are predicates, and which ones
* `RawPredicate.Refused`: the first condition that a form fails, with the byte where it does

## Main results

* `Operator.ofName_eq_iff`: a name is read as the operator that it stands for
* `RawPredicate.isPredicate_or_refused`: every form is a predicate or fails a condition first
* `RawPredicate.isPredicate_iff`: the forms that are predicates are those that spell one
-/

namespace SyntaxForest.Query

/-! ## Operators and their names -/

namespace Operator

/-- The name of an operator that is known here. -/
def name? : Operator → Option Bytes
  | .eq false => some (Bytes.ofText "eq?")
  | .eq true => some (Bytes.ofText "not-eq?")
  | .isMatch false => some (Bytes.ofText "match?")
  | .isMatch true => some (Bytes.ofText "not-match?")
  | .property .set => some (Bytes.ofText "set!")
  | .property .is => some (Bytes.ofText "is?")
  | .property .isNot => some (Bytes.ofText "is-not?")
  | .other => none

/-- The operator that a name stands for: the one of this name, or an unknown one where none is of
this name. -/
def IsNamed (op : Operator) (name : Bytes) : Prop :=
  op.name? = some name ∨ (op = .other ∧ ∀ op' : Operator, op'.name? ≠ some name)

theorem ofName_of_name?_eq {op : Operator} {name : Bytes} (h : op.name? = some name) :
    ofName name = op := by
  cases op with
  | eq negated => cases negated <;> cases h <;> decide +kernel
  | isMatch negated => cases negated <;> cases h <;> decide +kernel
  | property kind => cases kind <;> cases h <;> decide +kernel
  | other => cases h

theorem name?_ofName {name : Bytes} (known : ofName name ≠ .other) :
    (ofName name).name? = some name := by
  -- One case for each name that is tried, in the order of the trials.
  rw [ofName] at known ⊢
  split_ifs at known ⊢ with h₁ h₂ h₃ h₄ h₅ h₆ h₇
  · exact congrArg some h₁.symm
  · exact congrArg some h₂.symm
  · exact congrArg some h₃.symm
  · exact congrArg some h₄.symm
  · exact congrArg some h₅.symm
  · exact congrArg some h₆.symm
  · exact congrArg some h₇.symm
  · exact absurd rfl known

/-- A name is read as the operator that it stands for. -/
theorem ofName_eq_iff {op : Operator} {name : Bytes} : ofName name = op ↔ op.IsNamed name := by
  constructor
  · rintro rfl
    by_cases known : ofName name = .other
    · refine .inr ⟨known, fun op' named => ?_⟩
      rw [(ofName_of_name?_eq named).symm.trans known] at named
      cases named
    · exact .inl (name?_ofName known)
  · rintro (named | ⟨rfl, unnamed⟩)
    · exact ofName_of_name?_eq named
    · by_contra known
      exact unnamed _ (name?_ofName known)

theorem exists_name? (op : Operator) (known : op ≠ .other) : ∃ name, op.name? = some name := by
  cases op with
  | eq negated => cases negated <;> exact ⟨_, rfl⟩
  | isMatch negated => cases negated <;> exact ⟨_, rfl⟩
  | property kind => cases kind <;> exact ⟨_, rfl⟩
  | other => exact absurd rfl known

/-- The operator takes this number of arguments. -/
def TakesCount : Operator → Nat → Prop
  | .eq _, n | .isMatch _, n => n = 2
  | .property _, n => n = 1 ∨ n = 2
  | .other, _ => True

end Operator

/-! ## Arguments -/

/-- The argument is a capture. -/
def Argument.IsCapture : Argument → Prop
  | .capture _ _ => True
  | .literal _ _ => False

theorem Argument.eq_capture {a : Argument} (h : a.IsCapture) :
    ∃ name offset, a = .capture name offset := by
  cases a with
  | capture name offset => exact ⟨name, offset, rfl⟩
  | literal value offset => cases h

theorem Argument.eq_literal {a : Argument} (h : ¬ a.IsCapture) :
    ∃ value offset, a = .literal value offset := by
  cases a with
  | capture name offset => exact absurd trivial h
  | literal value offset => exact ⟨value, offset, rfl⟩

/-- The operator takes this argument at this position. -/
def Operator.Admits : Operator → Nat → Argument → Prop
  | .eq _, i, a => i = 0 → a.IsCapture
  | .isMatch _, i, a => i = 0 ↔ a.IsCapture
  | .property _, _, a => ¬ a.IsCapture
  | .other, _, _ => True

/-- The argument becomes this operand: a capture becomes the index of its name, a string stays. -/
inductive Argument.Finds (index? : Bytes → Option Nat) : Argument → Operand → Prop
  /-- A capture whose name has an index. -/
  | capture {name : Bytes} {offset i : Nat} (found : index? name = some i) :
      Finds index? (.capture name offset) (.capture i)
  /-- A string. -/
  | literal {value : Bytes} {offset : Nat} : Finds index? (.literal value offset) (.literal value)

/-- The argument is no capture, or a capture whose name has an index. -/
def Argument.IsKnown (index? : Bytes → Option Nat) (a : Argument) : Prop :=
  ∃ operand, a.Finds index? operand

/-- The first argument that fails a test, which may depend on the position. -/
def IsFirstFailure (passes : Nat → Argument → Prop) (arguments : List Argument) (a : Argument) :
    Prop :=
  ∃ i, arguments[i]? = some a ∧ ¬ passes i a ∧ ∀ j < i, ∀ b, arguments[j]? = some b → passes j b

section Arguments

variable {index? : Bytes → Option Nat} {arguments : List Argument}

theorem IsFirstFailure.mem {passes : Nat → Argument → Prop} {a : Argument}
    (h : IsFirstFailure passes arguments a) : a ∈ arguments := by
  obtain ⟨i, here, -⟩ := h
  exact List.mem_of_getElem? here

theorem forall_getElem?_cons {passes : Nat → Argument → Prop} {a : Argument} :
    (∀ i b, (a :: arguments)[i]? = some b → passes i b) ↔
      passes 0 a ∧ ∀ i b, arguments[i]? = some b → passes (i + 1) b := by
  constructor
  · exact fun h => ⟨h 0 a rfl, fun i b hb => h (i + 1) b hb⟩
  · rintro ⟨first, rest⟩ (_ | i) b hb
    · exact Option.some.inj hb ▸ first
    · exact rest i b hb

/-- Where not all arguments pass, one of them is the first that fails. -/
theorem exists_isFirstFailure (passes : Nat → Argument → Prop)
    (h : ¬ ∀ i a, arguments[i]? = some a → passes i a) :
    ∃ a, IsFirstFailure passes arguments a := by
  classical
  simp only [not_forall] at h
  obtain ⟨a, here, fails⟩ := Nat.find_spec h
  refine ⟨a, Nat.find h, here, fails, fun j before b hb => ?_⟩
  by_contra failed
  exact Nat.find_min h before ⟨b, hb, failed⟩

theorem exists_operands (known : ∀ a ∈ arguments, a.IsKnown index?) :
    ∃ operands, List.Forall₂ (Argument.Finds index?) arguments operands := by
  induction arguments with
  | nil => exact ⟨[], .nil⟩
  | cons a arguments ih =>
    obtain ⟨operand, first⟩ := known a List.mem_cons_self
    obtain ⟨operands, rest⟩ := ih fun b hb => known b (List.mem_cons_of_mem a hb)
    exact ⟨operand :: operands, .cons first rest⟩

/-- An argument that is not known is a capture whose name has no index. -/
theorem Argument.eq_capture_of_not_isKnown {a : Argument} (h : ¬ a.IsKnown index?) :
    ∃ name offset, a = .capture name offset ∧ index? name = none := by
  cases a with
  | literal value offset => exact absurd ⟨_, .literal⟩ h
  | capture name offset =>
    refine ⟨name, offset, rfl, Option.eq_none_iff_forall_ne_some.mpr fun i found => ?_⟩
    exact h ⟨_, .capture found⟩

end Arguments

/-! ## Predicates and refusals -/

/-- The arguments suit the operator. -/
structure Operator.Fits (op : Operator) (dialect : Regex.Dialect) (index? : Bytes → Option Nat)
    (arguments : List Argument) : Prop where
  /-- Every capture exists, whatever the operator. -/
  known : ∀ a ∈ arguments, a.IsKnown index?
  /-- Their number suits. -/
  count : op.TakesCount arguments.length
  /-- Their kinds suit. -/
  kinds : ∀ i a, arguments[i]? = some a → op.Admits i a
  /-- The pattern of a test for a regular expression is one in the dialect. -/
  compiles : ∀ negated, op = .isMatch negated → ∀ pattern offset,
    arguments[1]? = some (.literal pattern offset) → ∃ regex, dialect.compile pattern = .ok regex

namespace RawPredicate

/-- The form has an operator, and its arguments suit it. -/
def IsPredicate (dialect : Regex.Dialect) (index? : Bytes → Option Nat) (raw : RawPredicate) :
    Prop :=
  ∃ (name : Bytes) (op : Operator), raw.operator = some name ∧ op.IsNamed name ∧
    op.Fits dialect index? raw.arguments

/-- The form spells the predicate: it names the operator with its negation or kind, and its
arguments are the captures and strings of the predicate, in order. -/
inductive Spells (dialect : Regex.Dialect) (index? : Bytes → Option Nat) (raw : RawPredicate) :
    Predicate → Prop
  /-- A capture and what it is compared with. -/
  | eq {negated : Bool} {capture : Bytes} {offset left : Nat} {argument : Argument}
      {right : Operand} (named : raw.operator = (Operator.eq negated).name?)
      (written : raw.arguments = [.capture capture offset, argument])
      (found : index? capture = some left) (finds : argument.Finds index? right) :
      Spells dialect index? raw (.eq left right negated)
  /-- A capture and a regular expression. -/
  | isMatch {negated : Bool} {capture pattern : Bytes} {offset offset' i : Nat} {regex : Regex}
      (named : raw.operator = (Operator.isMatch negated).name?)
      (written : raw.arguments = [.capture capture offset, .literal pattern offset'])
      (found : index? capture = some i) (compiled : dialect.compile pattern = .ok regex) :
      Spells dialect index? raw (.isMatch i regex negated)
  /-- A key. -/
  | key {kind : PropertyKind} {key : Bytes} {offset : Nat}
      (named : raw.operator = (Operator.property kind).name?)
      (written : raw.arguments = [.literal key offset]) :
      Spells dialect index? raw (.property kind key none)
  /-- A key and a value. -/
  | pair {kind : PropertyKind} {key value : Bytes} {offset offset' : Nat}
      (named : raw.operator = (Operator.property kind).name?)
      (written : raw.arguments = [.literal key offset, .literal value offset']) :
      Spells dialect index? raw (.property kind key (some value))
  /-- An operator that is not known here, with whatever arguments it has. -/
  | unknown {name : Bytes} {operands : List Operand} (named : raw.operator = some name)
      (unnamed : ∀ op : Operator, op.name? ≠ some name)
      (finds : List.Forall₂ (Argument.Finds index?) raw.arguments operands) :
      Spells dialect index? raw (.unknown name operands)

/-- The first condition that the form fails, and the byte where it fails it. -/
inductive Refused (dialect : Regex.Dialect) (index? : Bytes → Option Nat) (raw : RawPredicate) :
    QueryError.Kind → Nat → Prop
  /-- There is no operator. -/
  | malformed (nameless : raw.operator = none) :
      Refused dialect index? raw .malformedPredicate raw.offset
  /-- A capture does not exist. -/
  | unknownCapture {name capture : Bytes} {offset : Nat} (named : raw.operator = some name)
      (first : IsFirstFailure (fun _ => Argument.IsKnown index?) raw.arguments
        (.capture capture offset)) :
      Refused dialect index? raw .unknownCapture offset
  /-- The arguments are too few or too many. -/
  | wrongArity {name : Bytes} {op : Operator} (named : raw.operator = some name)
      (stands : op.IsNamed name) (known : ∀ a ∈ raw.arguments, a.IsKnown index?)
      (count : ¬ op.TakesCount raw.arguments.length) :
      Refused dialect index? raw .wrongArity raw.offset
  /-- An argument is of the wrong kind. -/
  | wrongKind {name : Bytes} {op : Operator} {a : Argument} (named : raw.operator = some name)
      (stands : op.IsNamed name) (known : ∀ a ∈ raw.arguments, a.IsKnown index?)
      (count : op.TakesCount raw.arguments.length)
      (first : IsFirstFailure op.Admits raw.arguments a) :
      Refused dialect index? raw .wrongArgumentKind a.offset
  /-- The pattern is no regular expression of the dialect. -/
  | invalidRegex {name : Bytes} {negated : Bool} {capture : Argument} {pattern : Bytes}
      {offset : Nat} {reason : String} (named : raw.operator = some name)
      (stands : (Operator.isMatch negated).IsNamed name)
      (written : raw.arguments = [capture, .literal pattern offset])
      (known : capture.IsKnown index?) (isCapture : capture.IsCapture)
      (invalid : dialect.compile pattern = .error reason) :
      Refused dialect index? raw .invalidRegex offset

section

variable {dialect : Regex.Dialect} {index? : Bytes → Option Nat} {raw : RawPredicate}

/-- A form is refused at its own byte or at one of its arguments. -/
theorem Refused.offset_eq {kind : QueryError.Kind} {offset : Nat}
    (h : raw.Refused dialect index? kind offset) :
    offset = raw.offset ∨ ∃ a ∈ raw.arguments, offset = a.offset := by
  cases h with
  | malformed => exact .inl rfl
  | unknownCapture named first => exact .inr ⟨_, first.mem, rfl⟩
  | wrongArity => exact .inl rfl
  | wrongKind named stands known count first => exact .inr ⟨_, first.mem, rfl⟩
  | invalidRegex named stands written =>
    exact .inr ⟨_, written ▸ List.mem_cons_of_mem _ List.mem_cons_self, rfl⟩

/-- **Every form is a predicate, or fails a condition first.** -/
theorem isPredicate_or_refused (dialect : Regex.Dialect) (index? : Bytes → Option Nat)
    (raw : RawPredicate) :
    raw.IsPredicate dialect index? ∨ ∃ kind offset, raw.Refused dialect index? kind offset := by
  -- The conditions are gone through in their order, so that each failure has the earlier ones met.
  cases named : raw.operator with
  | none => exact .inr ⟨_, _, .malformed named⟩
  | some name =>
  obtain ⟨op, stands⟩ : ∃ op : Operator, op.IsNamed name := ⟨_, Operator.ofName_eq_iff.mp rfl⟩
  by_cases known : ∀ (i : Nat) (a : Argument), raw.arguments[i]? = some a → a.IsKnown index?
  case neg =>
    obtain ⟨a, first⟩ := exists_isFirstFailure (fun _ => Argument.IsKnown index?) known
    obtain ⟨capture, offset, rfl, -⟩ := Argument.eq_capture_of_not_isKnown first.choose_spec.2.1
    exact .inr ⟨_, _, .unknownCapture named first⟩
  have known : ∀ a ∈ raw.arguments, a.IsKnown index? := by
    intro a ha
    obtain ⟨i, hi⟩ := List.mem_iff_getElem?.mp ha
    exact known i a hi
  by_cases count : op.TakesCount raw.arguments.length
  case neg => exact .inr ⟨_, _, .wrongArity named stands known count⟩
  by_cases kinds : ∀ i a, raw.arguments[i]? = some a → op.Admits i a
  case neg =>
    obtain ⟨a, first⟩ := exists_isFirstFailure op.Admits kinds
    exact .inr ⟨_, _, .wrongKind named stands known count first⟩
  by_cases compiles : ∀ negated, op = .isMatch negated → ∀ pattern offset,
      raw.arguments[1]? = some (.literal pattern offset) →
        ∃ regex, dialect.compile pattern = .ok regex
  case pos => exact .inl ⟨name, op, named, stands, known, count, kinds, compiles⟩
  simp only [not_forall] at compiles
  obtain ⟨negated, rfl, pattern, offset, second, fails⟩ := compiles
  obtain ⟨first, b, written⟩ := List.length_eq_two.mp count
  rw [written] at second kinds known
  obtain rfl : b = .literal pattern offset := Option.some.inj second
  have isCapture : first.IsCapture := (kinds 0 first rfl).mp rfl
  cases invalid : dialect.compile pattern with
  | ok regex => exact absurd ⟨regex, invalid⟩ fails
  | error reason =>
    exact .inr ⟨_, _, .invalidRegex named stands written (known first List.mem_cons_self)
      isCapture invalid⟩

/-- A predicate is spelled by every form that is one. -/
theorem IsPredicate.exists_spells (h : raw.IsPredicate dialect index?) :
    ∃ p, raw.Spells dialect index? p := by
  obtain ⟨name, op, named, stands, known, count, kinds, compiles⟩ := h
  rcases stands with same | ⟨rfl, unnamed⟩
  case inr =>
    obtain ⟨operands, finds⟩ := exists_operands known
    exact ⟨_, .unknown named unnamed finds⟩
  have named : raw.operator = op.name? := named.trans same.symm
  cases op with
  | eq negated =>
    obtain ⟨a, b, written⟩ := List.length_eq_two.mp count
    rw [written] at known kinds
    obtain ⟨capture, offset, rfl⟩ := Argument.eq_capture (kinds 0 a rfl rfl)
    obtain ⟨-, ⟨found⟩⟩ := known _ List.mem_cons_self
    obtain ⟨right, finds⟩ := known b (List.mem_cons_of_mem _ List.mem_cons_self)
    exact ⟨_, .eq named written found finds⟩
  | isMatch negated =>
    obtain ⟨a, b, written⟩ := List.length_eq_two.mp count
    rw [written] at known kinds compiles
    obtain ⟨capture, offset, rfl⟩ := Argument.eq_capture ((kinds 0 a rfl).mp rfl)
    obtain ⟨pattern, offset', rfl⟩ :=
      Argument.eq_literal fun isCapture => Nat.one_ne_zero ((kinds 1 b rfl).mpr isCapture)
    obtain ⟨-, ⟨found⟩⟩ := known _ List.mem_cons_self
    obtain ⟨regex, compiled⟩ := compiles negated rfl pattern offset' rfl
    exact ⟨_, .isMatch named written found compiled⟩
  | property kind =>
    rcases count with one | two
    · obtain ⟨a, written⟩ := List.length_eq_one_iff.mp one
      rw [written] at kinds
      obtain ⟨key, offset, rfl⟩ := Argument.eq_literal (kinds 0 a rfl)
      exact ⟨_, .key named written⟩
    · obtain ⟨a, b, written⟩ := List.length_eq_two.mp two
      rw [written] at kinds
      obtain ⟨key, offset, rfl⟩ := Argument.eq_literal (kinds 0 a rfl)
      obtain ⟨value, offset', rfl⟩ := Argument.eq_literal (kinds 1 b rfl)
      exact ⟨_, .pair named written⟩
  | other => cases same

/-- A form that spells a predicate is one. -/
theorem Spells.isPredicate {p : Predicate} (h : raw.Spells dialect index? p) :
    raw.IsPredicate dialect index? := by
  cases h with
  | unknown named unnamed finds =>
    refine ⟨_, .other, named, .inr ⟨rfl, unnamed⟩, ?_, trivial, fun _ _ _ => trivial, nofun⟩
    intro a ha
    obtain ⟨i, hi, rfl⟩ := List.getElem_of_mem ha
    exact ⟨_, finds.get hi (finds.length_eq ▸ hi)⟩
  | @eq negated capture offset left argument right named written found finds =>
    obtain ⟨name, same⟩ := Operator.exists_name? (.eq negated) nofun
    refine ⟨name, _, named.trans same, .inl same, ?_, ?_, ?_, nofun⟩
    · simpa [written] using ⟨⟨_, .capture found⟩, ⟨_, finds⟩⟩
    · simp [written, Operator.TakesCount]
    · simp [written, forall_getElem?_cons, Operator.Admits, Argument.IsCapture]
  | @isMatch negated capture pattern offset offset' i regex named written found compiled =>
    obtain ⟨name, same⟩ := Operator.exists_name? (.isMatch negated) nofun
    refine ⟨name, _, named.trans same, .inl same, ?_, ?_, ?_, ?_⟩
    · simpa [written] using ⟨⟨_, .capture found⟩, ⟨_, .literal⟩⟩
    · simp [written, Operator.TakesCount]
    · simp [written, forall_getElem?_cons, Operator.Admits, Argument.IsCapture]
    · intro _ _ pattern' _ second
      cases (congrArg (·[1]?) written).symm.trans second
      exact ⟨regex, compiled⟩
  | @key kind key offset named written =>
    obtain ⟨name, same⟩ := Operator.exists_name? (.property kind) nofun
    refine ⟨name, _, named.trans same, .inl same, ?_, ?_, ?_, nofun⟩
    · simpa [written] using ⟨_, .literal⟩
    · simp [written, Operator.TakesCount]
    · simp [written, forall_getElem?_cons, Operator.Admits, Argument.IsCapture]
  | @pair kind key value offset offset' named written =>
    obtain ⟨name, same⟩ := Operator.exists_name? (.property kind) nofun
    refine ⟨name, _, named.trans same, .inl same, ?_, ?_, ?_, nofun⟩
    · simpa [written] using ⟨⟨_, .literal⟩, ⟨_, .literal⟩⟩
    · simp [written, Operator.TakesCount]
    · simp [written, forall_getElem?_cons, Operator.Admits, Argument.IsCapture]

/-- The forms that are predicates are those that spell one. -/
theorem isPredicate_iff : raw.IsPredicate dialect index? ↔ ∃ p, raw.Spells dialect index? p :=
  ⟨IsPredicate.exists_spells, fun ⟨_, spells⟩ => spells.isPredicate⟩

end

end RawPredicate

end SyntaxForest.Query
