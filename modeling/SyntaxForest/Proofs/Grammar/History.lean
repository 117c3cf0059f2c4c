import Mathlib.Data.List.Forall2
import SyntaxForest.Grammar.Registry

/-!
# Histories of a registry

Two operations change a registry: a grammar comes in and claims the extensions that it declares, or
one extension goes to a grammar that is there. Both may be refused. Whatever was asked of a registry
that began empty, an extension belongs to the grammar that the last successful claim of it names,
where extensions count as equal when they differ in leading dots or in the case of letters only.

## Main definitions

* `SameExtension`: extensions that are equal up to leading dots and case
* `Registry.Operation`, `Registry.attempt`: the operations
* `Registry.History`: a registry with the successful operations that led to it

## Main results

* `Registry.owner?_claim`: whom an extension belongs to after one more claim
* `Registry.attempt_eq_ok`: what a successful operation does
* `Registry.History.isSound_ofOperations`: what holds after every run of operations
* `Registry.History.last_claim_owns`: the last successful claim of an extension counts
-/

namespace SyntaxForest

/-! ## Extensions up to dots and case -/

/-- The characters are equal, or one is the lower case of the other. -/
def SameLetter (c d : Char) : Prop := c = d ∨ c.toLower = d ∨ d.toLower = c

theorem sameLetter_iff {c d : Char} : SameLetter c d ↔ c.toLower = d.toLower := by
  delta SameLetter Char.toLower
  grind [Char.ext_iff]

/-- The extensions are equal up to leading dots and the case of ASCII letters. -/
def SameExtension (e f : String) : Prop :=
  List.Forall₂ SameLetter (e.toList.dropWhile (· = '.')) (f.toList.dropWhile (· = '.'))

/-- The registry compares extensions in a form that forgets dots and case, and nothing else. -/
theorem sameExtension_iff {e f : String} :
    SameExtension e f ↔ normalizeExtension e = normalizeExtension f := by
  have letters : SameLetter = fun c d => c.toLower = d.toLower :=
    funext fun c => funext fun d => propext sameLetter_iff
  unfold SameExtension normalizeExtension
  rw [String.ofList_inj, ← List.forall₂_eq_eq_eq, List.forall₂_map_left_iff,
    List.forall₂_map_right_iff, letters]

instance : DecidableRel SameExtension := fun _ _ => decidable_of_iff _ sameExtension_iff.symm

theorem SameExtension.refl (e : String) : SameExtension e e := sameExtension_iff.mpr rfl

theorem lookup_filter_of_ne {α : Type} {key k : String} (h : k ≠ key)
    (entries : List (String × α)) :
    (entries.filter (·.1 ≠ key)).lookup k = entries.lookup k := by
  induction entries with
  | nil => rfl
  | cons entry rest ih =>
    obtain ⟨j, value⟩ := entry
    by_cases same : j = key
    · have differs : (k == j) = false := beq_eq_false_iff_ne.mpr (same ▸ h)
      rw [List.filter_cons_of_neg (by simpa using same), ih, List.lookup_cons, differs]
    · rw [List.filter_cons_of_pos (by simpa using same), List.lookup_cons, List.lookup_cons, ih]

namespace Registry

variable {r r' : Registry} {g : Grammar} {name e : String}

theorem get_eq_ok_iff : r.get name = .ok g ↔ r.find? name = some g := by
  rw [get]
  cases r.find? name with
  | none => simp
  | some h => simp

theorem name_of_get (h : r.get name = .ok g) : g.name = name := by
  have named := List.find?_some (get_eq_ok_iff.mp h)
  exact of_decide_eq_true named

/-! ## Claims -/

/-- **After a claim** the extension belongs to the grammar of that name, in whatever way it is
written, and every other one to whom it belonged. -/
theorem owner?_claim (r : Registry) (name e f : String) :
    (r.claim name e).owner? f = if SameExtension e f then some name else r.owner? f := by
  rw [owner?, claim, List.lookup_cons]
  by_cases same : SameExtension e f
  · rw [if_pos same, sameExtension_iff.mp same, beq_self_eq_true]
  · have differs : normalizeExtension f ≠ normalizeExtension e :=
      fun h => same (sameExtension_iff.mpr h.symm)
    rw [if_neg same, beq_eq_false_iff_ne.mpr differs, owner?]
    -- The entries that the claim took away are those of another key.
    exact lookup_filter_of_ne differs r.extensions

theorem owner?_foldl_claim (r : Registry) (name : String) (extensions : List String) (f : String) :
    (extensions.foldl (fun r e => r.claim name e) r).owner? f =
      if ∃ e ∈ extensions, SameExtension e f then some name else r.owner? f := by
  induction extensions generalizing r with
  | nil => simp
  | cons e rest ih =>
    -- A claim among the later ones hides this one, so that case comes first.
    rw [List.foldl_cons, ih, owner?_claim]
    by_cases later : ∃ e' ∈ rest, SameExtension e' f
    · rw [if_pos later, if_pos]
      exact later.imp fun _ h => ⟨List.mem_cons_of_mem _ h.1, h.2⟩
    · rw [if_neg later]
      simp only [List.exists_mem_cons_iff, later, or_false]

theorem mem_extensions_claim {entry : String × String}
    (h : entry ∈ (r.claim name e).extensions) : entry.2 = name ∨ entry ∈ r.extensions := by
  rcases List.mem_cons.mp h with rfl | kept
  · exact .inl rfl
  · exact .inr (List.mem_filter.mp kept).1

theorem mem_extensions_foldl_claim {extensions : List String} {entry : String × String}
    (h : entry ∈ (extensions.foldl (fun r e => r.claim name e) r).extensions) :
    entry.2 = name ∨ entry ∈ r.extensions := by
  induction extensions generalizing r with
  | nil => exact .inr h
  | cons e rest ih =>
    rcases ih h with named | earlier
    · exact .inl named
    · exact mem_extensions_claim earlier

/-! ## Grammars in name order -/

theorem mem_insertByName {h : Grammar} {grammars : List Grammar} :
    h ∈ insertByName g grammars ↔ h = g ∨ h ∈ grammars := by
  induction grammars with
  | nil => simp [insertByName]
  | cons k rest ih =>
    rw [insertByName]
    split
    · exact List.mem_cons
    · rw [List.mem_cons, ih, List.mem_cons, or_left_comm]

/-- A grammar whose name is free is found under its name, and every other one as before. -/
theorem find?_insertByName {grammars : List Grammar} (free : ∀ h ∈ grammars, h.name ≠ g.name)
    (name : String) :
    (insertByName g grammars).find? (·.name = name) =
      if g.name = name then some g else grammars.find? (·.name = name) := by
  have first (rest : List Grammar) : (g :: rest).find? (·.name = name) =
      if g.name = name then some g else rest.find? (·.name = name) := by
    by_cases same : g.name = name
    · rw [if_pos same, List.find?_cons_of_pos (by simpa using same)]
    · rw [if_neg same, List.find?_cons_of_neg (by simpa using same)]
  induction grammars with
  | nil => exact first []
  | cons h rest ih =>
    obtain ⟨taken, later⟩ := List.forall_mem_cons.mp free
    rw [insertByName]
    split
    · exact first (h :: rest)
    · by_cases found : h.name = name
      · -- A grammar that stands before the new one has another name.
        have other : g.name ≠ name := fun same => taken (found.trans same.symm)
        rw [List.find?_cons_of_pos (by simpa using found), if_neg other,
          List.find?_cons_of_pos (by simpa using found)]
      · rw [List.find?_cons_of_neg (by simpa using found), ih later,
          List.find?_cons_of_neg (by simpa using found)]

theorem find?_eq_none_iff : r.find? name = none ↔ ∀ h ∈ r.grammars, h.name ≠ name := by
  rw [find?, List.find?_eq_none]
  simp only [decide_eq_true_eq, ne_eq]

/-- **A registration that succeeds** had a free name and free extensions. -/
theorem register_eq_ok (h : r.register g = .ok r') :
    r.find? g.name = none ∧ (∀ e ∈ g.extensions, r.owner? e = none) ∧
      r' = { g.extensions.foldl (fun r e => r.claim g.name e) r with
        grammars := insertByName g r.grammars } := by
  rw [register] at h
  split at h
  next => cases h
  next free =>
    split at h
    next => cases h
    next unclaimed =>
      refine ⟨by simpa using free, fun e he => ?_, (Except.ok.inj h).symm⟩
      simpa using List.findSome?_eq_none_iff.mp unclaimed e he

theorem mapExtension_eq_ok (h : r.mapExtension e name = .ok r') :
    (∃ g, r.find? name = some g) ∧ r' = r.claim name e := by
  rw [mapExtension] at h
  split at h
  next => cases h
  next g found => exact ⟨⟨g, get_eq_ok_iff.mp found⟩, (Except.ok.inj h).symm⟩

/-! ## Operations -/

/-- What can be asked of a registry that changes it. -/
inductive Operation where
  | register (grammar : Grammar)
  | mapExtension (extension name : String)
  deriving DecidableEq, Repr

namespace Operation

/-- The name of the grammar that the operation makes an owner. -/
def owner : Operation → String
  | .register g => g.name
  | .mapExtension _ name => name

def extensions : Operation → List String
  | .register g => g.extensions
  | .mapExtension e _ => [e]

/-- The operation claims an extension, in one way of writing it or another. -/
def Claims (op : Operation) (e : String) : Prop := ∃ f ∈ op.extensions, SameExtension f e

instance (op : Operation) : DecidablePred op.Claims := fun _ =>
  inferInstanceAs (Decidable (∃ f ∈ op.extensions, _))

end Operation

def attempt (r : Registry) : Operation → Except RegistryError Registry
  | .register g => r.register g
  | .mapExtension e name => r.mapExtension e name

/-- What `op` does when it leads from `r` to `r'`. -/
structure Leads (r : Registry) (op : Operation) (r' : Registry) : Prop where
  /-- Its extensions belong to its owner, and the others to whom they belonged. -/
  owner : ∀ e, r'.owner? e = if op.Claims e then some op.owner else r.owner? e
  /-- Its owner is registered. -/
  known : ∃ g, r'.find? op.owner = some g
  /-- What was registered is found as before. -/
  kept : ∀ name g, r.find? name = some g → r'.find? name = some g
  /-- What is registered now was registered before, or it is what the operation registers, under its
  own name. -/
  grammars : ∀ g ∈ r'.grammars, g ∈ r.grammars ∨ op = .register g ∧ r'.find? g.name = some g
  /-- The entries for extensions are older ones, or name its owner. -/
  entries : ∀ entry ∈ r'.extensions, entry.2 = op.owner ∨ entry ∈ r.extensions

/-- **What a successful operation does.** -/
theorem attempt_eq_ok {op : Operation} (h : r.attempt op = .ok r') : r.Leads op r' := by
  cases op with
  | register g =>
    obtain ⟨free, -, rfl⟩ := register_eq_ok h
    have found (name : String) := find?_insertByName (find?_eq_none_iff.mp free) name
    refine ⟨owner?_foldl_claim r g.name g.extensions, ⟨g, ?_⟩, fun name k known => ?_,
      fun k hk => ?_, fun entry => mem_extensions_foldl_claim⟩
    · exact (found g.name).trans (if_pos rfl)
    · -- What is found by a name now keeps its place: the new grammar had a free name.
      refine (found name).trans ((if_neg ?_).trans known)
      rintro rfl
      rw [free] at known
      cases known
    · rcases mem_insertByName.mp hk with rfl | earlier
      · exact .inr ⟨rfl, (found k.name).trans (if_pos rfl)⟩
      · exact .inl earlier
  | mapExtension e name =>
    obtain ⟨known, rfl⟩ := mapExtension_eq_ok h
    refine ⟨fun f => ?_, known, fun _ _ => id, fun _ => .inl, fun entry => mem_extensions_claim⟩
    rw [owner?_claim]
    simp only [Operation.Claims, Operation.extensions, List.mem_singleton, exists_eq_left,
      Operation.owner]

/-- What a successful registration claims was claimed by no one. -/
theorem owner?_eq_none_of_register (h : r.register g = .ok r')
    (claims : (Operation.register g).Claims e) : r.owner? e = none := by
  obtain ⟨f, hf, same⟩ := claims
  obtain ⟨-, unclaimed, -⟩ := register_eq_ok h
  rw [owner?, ← sameExtension_iff.mp same]
  exact unclaimed f hf

/-! ## Histories -/

/-- A registry with the successful operations that led to it from an empty one. -/
structure History where
  registry : Registry := {}
  /-- The last one first. -/
  successes : List Operation := []

namespace History

/-- Tries one more operation. One that is refused leaves everything as it is. -/
def step (h : History) (op : Operation) : History :=
  match h.registry.attempt op with
  | .ok r => ⟨r, op :: h.successes⟩
  | .error _ => h

/-- The history of a run of operations. -/
def ofOperations (operations : List Operation) : History := operations.foldl step {}

/-- The last successful operation that claimed an extension. -/
def lastClaim? (h : History) (e : String) : Option Operation := h.successes.find? (·.Claims e)

/-- What holds of a registry and the operations that led to it. -/
structure IsSound (h : History) : Prop where
  /-- An extension belongs to the owner that the last claim of it names. -/
  owner : ∀ e, h.registry.owner? e = (h.lastClaim? e).map (·.owner)
  /-- Each claim names a registered grammar. -/
  known : ∀ op ∈ h.successes, ∃ g, h.registry.find? op.owner = some g
  /-- A grammar came in by an operation, and is found under its own name. -/
  grammars : ∀ g ∈ h.registry.grammars,
    .register g ∈ h.successes ∧ h.registry.find? g.name = some g
  /-- Each entry for an extension names a registered grammar. -/
  entries : ∀ entry ∈ h.registry.extensions, ∃ g, h.registry.find? entry.2 = some g

/-- An operation keeps a history sound, whether it succeeds or not. -/
theorem IsSound.step {h : History} (sound : h.IsSound) (op : Operation) : (h.step op).IsSound := by
  rw [History.step]
  split
  next r succeeds =>
    -- What was named stays registered, so each clause is about the new claim or carried over.
    have leads := attempt_eq_ok succeeds
    refine ⟨fun e => ?_, fun later hlater => ?_, fun g hg => ?_, fun entry hentry => ?_⟩
    · rw [leads.owner, lastClaim?]
      by_cases claims : op.Claims e
      · rw [if_pos claims, List.find?_cons_of_pos (by simpa using claims), Option.map_some]
      · rw [if_neg claims, List.find?_cons_of_neg (by simpa using claims), sound.owner, lastClaim?]
    · rcases List.mem_cons.mp hlater with rfl | earlier
      · exact leads.known
      · obtain ⟨g, found⟩ := sound.known later earlier
        exact ⟨g, leads.kept _ g found⟩
    · rcases leads.grammars g hg with earlier | ⟨rfl, found⟩
      · obtain ⟨came, found⟩ := sound.grammars g earlier
        exact ⟨List.mem_cons_of_mem _ came, leads.kept _ g found⟩
      · exact ⟨List.mem_cons_self, found⟩
    · rcases leads.entries entry hentry with named | earlier
      · obtain ⟨g, found⟩ := leads.known
        exact ⟨g, named ▸ found⟩
      · obtain ⟨g, found⟩ := sound.entries entry earlier
        exact ⟨g, leads.kept _ g found⟩
  next => exact sound

/-- **Every run of operations on an empty registry leaves a sound history.** -/
theorem isSound_ofOperations (operations : List Operation) : (ofOperations operations).IsSound := by
  have fromSound (h : History) (sound : h.IsSound) : (operations.foldl History.step h).IsSound := by
    -- By induction on the operations that are still to come, from any sound history.
    induction operations generalizing h with
    | nil => exact sound
    | cons op rest ih => exact ih (h.step op) (sound.step op)
  exact fromSound {} ⟨fun e => rfl, by simp, by simp, by simp⟩

section

variable {h : History} (sound : h.IsSound)

include sound

/-- The last claim of an extension decides which grammar it is resolved to. -/
theorem IsSound.forExtension?_of_lastClaim? {op : Operation} (last : h.lastClaim? e = some op) :
    ∃ g, h.registry.get op.owner = .ok g ∧ h.registry.forExtension? e = some g := by
  obtain ⟨g, found⟩ := sound.known op (List.mem_of_find?_eq_some last)
  refine ⟨g, get_eq_ok_iff.mpr found, ?_⟩
  rw [forExtension?, sound.owner, last, Option.map_some, Option.bind_some, found]

theorem IsSound.forExtension?_of_unclaimed (unclaimed : h.lastClaim? e = none) :
    h.registry.forExtension? e = none := by
  rw [forExtension?, sound.owner, unclaimed, Option.map_none, Option.bind_none]

/-- A successful operation leaves the extensions alone that it does not claim. -/
theorem IsSound.forExtension?_of_not_claims {op : Operation}
    (succeeds : h.registry.attempt op = .ok r) (other : ¬ op.Claims e) :
    r.forExtension? e = h.registry.forExtension? e := by
  have leads := attempt_eq_ok succeeds
  rw [forExtension?, forExtension?, leads.owner, if_neg other, sound.owner]
  cases last : h.lastClaim? e with
  | none => rfl
  | some claim =>
    obtain ⟨g, found⟩ := sound.known claim (List.mem_of_find?_eq_some last)
    exact (leads.kept _ g found).trans found.symm

end

/-- **The last successful claim of an extension counts.** After any run of operations on an empty
registry, an extension is resolved to the registered grammar that the last successful claim of it
names, however the two are written, and to none when no operation claimed it. Grammars are found
under their own names and came in by an operation that succeeded; entries for extensions name
registered grammars. A refused operation changes nothing, a registration leaves alone what was
claimed, and a mapping leaves alone every extension but its own. -/
theorem last_claim_owns (operations : List Operation) :
    let h := ofOperations operations
    (∀ e op, h.lastClaim? e = some op →
      ∃ g, h.registry.get op.owner = .ok g ∧ h.registry.forExtension? e = some g ∧
        g.name = op.owner) ∧
    (∀ e, (∀ op ∈ h.successes, ¬ op.Claims e) → h.registry.forExtension? e = none) ∧
    (∀ g ∈ h.registry.grammars, .register g ∈ h.successes ∧ h.registry.get g.name = .ok g) ∧
    (∀ entry ∈ h.registry.extensions, ∃ g, h.registry.get entry.2 = .ok g) ∧
    (∀ op reason, h.registry.attempt op = .error reason → h.step op = h) ∧
    (∀ g r, h.registry.register g = .ok r → ∀ e, (∃ op ∈ h.successes, op.Claims e) →
      r.forExtension? e = h.registry.forExtension? e) ∧
    ∀ extension name r, h.registry.mapExtension extension name = .ok r →
      ∀ e, ¬ SameExtension extension e → r.forExtension? e = h.registry.forExtension? e := by
  intro h
  have sound : h.IsSound := isSound_ofOperations operations
  refine ⟨fun e op last => ?_, fun e unclaimed => ?_, fun g hg => ?_, fun entry hentry => ?_,
    fun op reason refused => ?_, fun g r succeeds e claimed => ?_,
    fun extension name r succeeds e other => ?_⟩
  · obtain ⟨g, found, resolved⟩ := sound.forExtension?_of_lastClaim? last
    exact ⟨g, found, resolved, name_of_get found⟩
  · exact sound.forExtension?_of_unclaimed (List.find?_eq_none.mpr (by simpa using unclaimed))
  · exact (sound.grammars g hg).imp_right get_eq_ok_iff.mpr
  · obtain ⟨g, found⟩ := sound.entries entry hentry
    exact ⟨g, get_eq_ok_iff.mpr found⟩
  · rw [step, refused]
  · have tried : h.registry.attempt (.register g) = .ok r := succeeds
    refine sound.forExtension?_of_not_claims tried fun claims => ?_
    -- Then the extension would have had no owner, and the last claim of it names one.
    have unowned := owner?_eq_none_of_register succeeds claims
    rw [sound.owner, Option.map_eq_none_iff, lastClaim?, List.find?_eq_none] at unowned
    obtain ⟨op, hop, claims'⟩ := claimed
    exact unowned op hop (by simpa using claims')
  · have tried : h.registry.attempt (.mapExtension extension name) = .ok r := succeeds
    refine sound.forExtension?_of_not_claims tried ?_
    rintro ⟨f, hf, same⟩
    exact other (List.mem_singleton.mp hf ▸ same)

/-- Two grammars, of which a third and then a mapping want the extension of the first. -/
def contestedOperations : List Operation := [
  .register (.bundledAs "css" ["css"]),
  .register (.bundledAs "css2" ["..CSS"]),
  .register (.bundledAs "go" ["go"]),
  .mapExtension ".Css" "go",
  .mapExtension "css" "css2"]

/-- The third grammar is refused, so it cannot be named later. -/
theorem last_claim_owns_of_contested :
    (ofOperations contestedOperations).successes.length = 3 ∧
    (ofOperations contestedOperations).lastClaim? "CSS" = some (.mapExtension ".Css" "go") ∧
    ∃ g, (ofOperations contestedOperations).registry.forExtension? "CSS" = some g ∧
      g.name = "go" := by
  have last : (ofOperations contestedOperations).lastClaim? "CSS" =
      some (.mapExtension ".Css" "go") := by decide +kernel
  refine ⟨by decide +kernel, last, ?_⟩
  obtain ⟨g, -, resolved, named⟩ := (last_claim_owns contestedOperations).1 "CSS" _ last
  exact ⟨g, resolved, named⟩

end History

end Registry

end SyntaxForest
