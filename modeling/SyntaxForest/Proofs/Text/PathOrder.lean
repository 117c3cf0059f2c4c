import Mathlib.Data.List.Sort
import SyntaxForest.Text.Path

/-!
# The order of paths

Paths are compared part by part, so a path comes before those of a name that its own name only
begins, whatever character follows there: `a/z` comes before `a-b`, although the dash comes before
the slash. A path under a path has one part more, the name. So the paths under one directory are
ordered as the lists of names that lead to them.

## Main definitions

* `Path.IsName`: what a directory may call an entry
* `Path.under`: the path to which names lead from a path

## Main results

* `Path.components_under`: its parts
* `Path.compare_under_eq_lt_iff`: its place in the order
-/

namespace SyntaxForest.Path

open Std

/-! ## Parts -/

namespace Component

/-- The place of the kinds of parts. -/
def rank : Component → Nat
  | .root => 0
  | .current => 1
  | .parent => 2
  | .normal _ => 3

/-- The name of a part that has one. -/
def name : Component → String
  | .normal name => name
  | _ => ""

/-- Parts are compared by their kind and then by their name. -/
theorem compare_eq :
    Component.compare = compareLex (compareOn Component.rank) (compareOn Component.name) := by
  funext a b
  cases a <;> cases b <;> rfl

instance : TransCmp Component.compare := compare_eq ▸ inferInstance

instance : LawfulEqCmp Component.compare where
  eq_of_compare {a b} same := by
    rw [compare_eq, compareLex_eq_eq] at same
    obtain ⟨kind, name⟩ := same
    have kind : a.rank = b.rank := LawfulEqOrd.eq_of_compare kind
    have name : a.name = b.name := LawfulEqOrd.eq_of_compare name
    cases a <;> cases b <;> simp_all [Component.rank, Component.name]

theorem compare_normal_eq_lt_iff (a b : String) :
    (Component.normal a).compare (.normal b) = .lt ↔ a < b :=
  compareOfLessAndEq_eq_lt

end Component

/-! ## Paths -/

/-- Parts are compared in turn. -/
theorem compareComponents_eq : compareComponents = List.compareLex Component.compare := by
  funext as bs
  fun_induction compareComponents as bs with
  | case1 => rfl
  | case2 => rfl
  | case3 => rfl
  | case4 a as b bs ih =>
    rw [List.compareLex_cons_cons, ih]

instance : TransCmp compareComponents := compareComponents_eq ▸ inferInstance

instance : LawfulEqCmp compareComponents := compareComponents_eq ▸ inferInstance

instance : TransCmp Path.compare where
  eq_swap := (inferInstance : OrientedCmp compareComponents).eq_swap
  isLE_trans := (inferInstance : TransCmp compareComponents).isLE_trans

/-- Parts that two paths have in common at the front do not count. -/
theorem compareComponents_append (front as bs : List Component) :
    compareComponents (front ++ as) (front ++ bs) = compareComponents as bs := by
  induction front with
  | nil => rfl
  | cons c front ih =>
    have same : c.compare c = .eq := ReflCmp.compare_self
    rw [List.cons_append, List.cons_append, compareComponents, same, ih]
    rfl

/-- Names are compared in turn. -/
theorem compareComponents_map_normal_eq_lt_iff (as bs : List String) :
    compareComponents (as.map .normal) (bs.map .normal) = .lt ↔ as < bs := by
  induction as generalizing bs with
  | nil =>
    cases bs with
    | nil => exact iff_of_false nofun (List.not_lt_nil _)
    | cons b bs => exact iff_of_true rfl (List.nil_lt_cons b bs)
  | cons a as ih =>
    cases bs with
    | nil => exact iff_of_false nofun (List.not_lt_nil _)
    | cons b bs =>
      rw [List.map_cons, List.map_cons, compareComponents, Ordering.then_eq_lt,
        Component.compare_normal_eq_lt_iff, LawfulEqCmp.compare_eq_iff_eq, Component.normal.injEq,
        ih, List.cons_lt_cons_iff]

/-! ## Paths under a path -/

/-- What a directory may call an entry. -/
def IsName (name : String) : Prop :=
  name ≠ "" ∧ name ≠ "." ∧ name ≠ ".." ∧ '/' ∉ name.toList

instance (name : String) : Decidable (IsName name) := inferInstanceAs (Decidable (_ ∧ _))

/-- The path to which names lead from a path. -/
def under (p : Path) (names : List String) : Path := names.foldl (fun p name => p.join ⟨name⟩) p

theorem pieces_ne_nil (text : List Char) : pieces text ≠ [] := by
  fun_cases pieces text <;> simp

theorem pieces_of_not_mem {name : List Char} (h : '/' ∉ name) : pieces name = [name] := by
  induction name with
  | nil => rfl
  | cons c name ih =>
    rw [List.mem_cons, not_or] at h
    rw [pieces, if_neg (Ne.symm h.1), ih h.2]

/-- The pieces behind a slash come behind those in front of it. -/
theorem pieces_append_slash (a b : List Char) : pieces (a ++ '/' :: b) = pieces a ++ pieces b := by
  induction a with
  | nil => rfl
  | cons c a ih =>
    rw [List.cons_append, pieces, pieces, ih]
    split
    next => rfl
    next =>
      cases h : pieces a with
      | nil => exact absurd h (pieces_ne_nil a)
      | cons piece later => rfl

theorem eq_nil_of_pieces {text : List Char} (h : pieces text = [[]]) : text = [] := by
  cases text with
  | nil => rfl
  | cons c text =>
    rw [pieces] at h
    split at h
    next => cases pieces_ne_nil text (List.cons.inj h).2
    next => split at h <;> cases h

/-- The part that the first piece is, unless it is empty and alone. -/
def firstPart (piece : List Char) : List Component :=
  if piece = [] then [.root] else if piece = ['.'] then [.current]
  else (Component.ofPiece? piece).toList

theorem components_of_pieces {p : Path} {first : List Char} {later : List (List Char)}
    (h : pieces p.text.toList = first :: later) (counts : first ≠ [] ∨ later ≠ []) :
    p.components = firstPart first ++ later.filterMap Component.ofPiece? := by
  have root : (first = [] ∧ later ≠ []) ↔ first = [] :=
    ⟨And.left, fun none => ⟨none, counts.resolve_left (· none)⟩⟩
  rw [components, h]
  simp only [root, firstPart]

theorem ofPiece?_of_isName {name : String} (h : IsName name) :
    Component.ofPiece? name.toList = some (.normal name) := by
  have other (text : String) (ne : name ≠ text) : name.toList ≠ text.toList :=
    fun same => ne (String.toList_injective same)
  have counts : ¬ (name.toList = [] ∨ name.toList = ['.']) :=
    not_or.mpr ⟨other "" h.1, other "." h.2.1⟩
  have notUp : ¬ name.toList = ['.', '.'] := other ".." h.2.2.1
  rw [Component.ofPiece?, if_neg counts, if_neg notUp, String.ofList_toList]

theorem toList_text_join {p : Path} {name : String} (ne : p.text ≠ "") (h : IsName name) :
    (p.join ⟨name⟩).text.toList =
      if p.text.toList.getLast? = some '/' then p.text.toList ++ name.toList
      else p.text.toList ++ '/' :: name.toList := by
  have relative : ¬ (⟨name⟩ : Path).isAbsolute = true := by
    intro absolute
    exact h.2.2.2 (List.mem_of_mem_head? (of_decide_eq_true absolute))
  rw [join, if_neg relative]
  simp only [ne, false_or]
  split <;> simp

/-- A path under a path has one part more. -/
theorem components_join {p : Path} {name : String} (ne : p.text ≠ "") (h : IsName name) :
    (p.join ⟨name⟩).components = p.components ++ [.normal name] := by
  have text := toList_text_join ne h
  have one : [name.toList].filterMap Component.ofPiece? = [.normal name] := by
    rw [List.filterMap_cons, ofPiece?_of_isName h, List.filterMap_nil]
  split at text
  next slash =>
    -- The empty piece behind the last slash gives way to the name.
    obtain ⟨front, ends⟩ := List.getLast?_eq_some_iff.mp slash
    obtain ⟨first, later, split⟩ := List.exists_cons_of_ne_nil (pieces_ne_nil front)
    rw [ends, List.append_assoc, List.singleton_append] at text
    have old : pieces p.text.toList = first :: (later ++ [[]]) := by
      rw [ends, pieces_append_slash, split]
      rfl
    have new : pieces (p.join ⟨name⟩).text.toList = first :: (later ++ [name.toList]) := by
      rw [text, pieces_append_slash, split, pieces_of_not_mem h.2.2.2, List.cons_append]
    rw [components_of_pieces old (.inr (by simp)), components_of_pieces new (.inr (by simp)),
      List.filterMap_append, List.filterMap_append, one, List.append_assoc, List.append_assoc]
    rfl
  next =>
    obtain ⟨first, later, split⟩ := List.exists_cons_of_ne_nil (pieces_ne_nil p.text.toList)
    have counts : first ≠ [] ∨ later ≠ [] := by
      by_contra none
      rw [not_or, not_not, not_not] at none
      obtain ⟨rfl, rfl⟩ := none
      exact ne (String.toList_injective (eq_nil_of_pieces split))
    have new : pieces (p.join ⟨name⟩).text.toList = first :: (later ++ [name.toList]) := by
      rw [text, pieces_append_slash, split, pieces_of_not_mem h.2.2.2, List.cons_append]
    rw [components_of_pieces split counts, components_of_pieces new (.inr (by simp)),
      List.filterMap_append, one, List.append_assoc]

theorem text_join_ne {p : Path} {name : String} (ne : p.text ≠ "") (h : IsName name) :
    (p.join ⟨name⟩).text ≠ "" := by
  intro empty
  have text := toList_text_join ne h
  rw [empty] at text
  split at text <;> simp [ne] at text

/-- **The parts of a path under a path** are its parts and then the names. -/
theorem components_under {p : Path} {names : List String} (ne : p.text ≠ "")
    (h : ∀ name ∈ names, IsName name) :
    (p.under names).components = p.components ++ names.map .normal := by
  induction names generalizing p with
  | nil => exact (List.append_nil _).symm
  | cons name names ih =>
    obtain ⟨first, later⟩ := List.forall_mem_cons.mp h
    rw [under, List.foldl_cons, ← under, ih (text_join_ne ne first) later,
      components_join ne first, List.append_assoc]
    rfl

/-- **Paths under one path are ordered as the names** that lead to them. -/
theorem compare_under_eq_lt_iff {p : Path} {as bs : List String} (ne : p.text ≠ "")
    (ha : ∀ name ∈ as, IsName name) (hb : ∀ name ∈ bs, IsName name) :
    (p.under as).compare (p.under bs) = .lt ↔ as < bs := by
  rw [Path.compare, components_under ne ha, components_under ne hb, compareComponents_append,
    compareComponents_map_normal_eq_lt_iff]

/-- A dash comes before a slash, but the path with the slash comes first. -/
example : (⟨"a/z"⟩ : Path).compare ⟨"a-b"⟩ = .lt ∧ "a-b" < "a/z" := by decide

end SyntaxForest.Path
