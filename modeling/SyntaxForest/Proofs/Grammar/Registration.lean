import SyntaxForest.Proofs.Grammar.History

/-!
# Registrations

A grammar comes in when its name is free and no extension that it declares has an owner. The name is
looked at first. Of the extensions the first in the order of the declaration counts that is taken,
and the refusal names it as it is written there, with the grammar that it is resolved to now, which
need not be the one that declared it. What the grammar declares is only compared with earlier
claims, so it may declare one extension in several spellings.

## Main definitions

* `Registry.Knows`: some registered grammar has a name
* `Registry.History.HasClaim`: some successful operation claimed an extension

## Main results

* `Registry.register_of_knows`, `Registry.register_of_owner?_eq_some`, `Registry.register_of_free`:
  the three outcomes of a registration
* `Registry.History.IsSound.owner?_eq_some`: a claimed extension has an owner that it is resolved to
* `Registry.History.register_outcome`: when a registration is refused and why, and what it does
-/

namespace SyntaxForest

namespace Registry

variable {r r' : Registry} {g : Grammar} {name e : String}

/-! ## Names and sizes -/

/-- Some registered grammar has the name. -/
def Knows (r : Registry) (name : String) : Prop := ∃ g ∈ r.grammars, g.name = name

instance (r : Registry) : DecidablePred r.Knows := fun _ =>
  inferInstanceAs (Decidable (∃ g ∈ r.grammars, _))

theorem find?_eq_none_iff_not_knows : r.find? name = none ↔ ¬ r.Knows name := by
  rw [find?_eq_none_iff, Knows]
  push Not
  rfl

theorem knows_iff : r.Knows name ↔ ∃ g, r.find? name = some g := by
  rw [← not_iff_not, ← find?_eq_none_iff_not_knows, Option.eq_none_iff_forall_ne_some, not_exists]

theorem get_of_not_knows (unknown : ¬ r.Knows name) :
    r.get name = .error (.unknown name (r.closestName? name)) := by
  rw [get, find?_eq_none_iff_not_knows.mpr unknown]

theorem length_insertByName (g : Grammar) (grammars : List Grammar) :
    (insertByName g grammars).length = grammars.length + 1 := by
  induction grammars with
  | nil => rfl
  | cons h rest ih =>
    rw [insertByName]
    split
    · rfl
    · exact congrArg (· + 1) ih

/-! ## The outcomes of a registration -/

theorem register_of_knows (known : r.Knows g.name) : r.register g = .error (.duplicate g.name) := by
  obtain ⟨k, found⟩ := knows_iff.mp known
  rw [register, found]
  rfl

section

variable (free : ¬ r.Knows g.name)

include free

/-- With a free name, the first declared extension that has an owner decides. -/
theorem register_of_owner?_eq_some {before after : List String} {owner : String}
    (declared : g.extensions = before ++ e :: after) (unowned : ∀ f ∈ before, r.owner? f = none)
    (owned : r.owner? e = some owner) :
    r.register g = .error (.extensionConflict e owner) := by
  have first : g.extensions.findSome? (fun e => (r.owner? e).map (e, ·)) = some (e, owner) := by
    refine List.findSome?_eq_some_iff.mpr ⟨before, e, after, declared, ?_, fun f hf => ?_⟩
    · rw [owned, Option.map_some]
    · rw [unowned f hf, Option.map_none]
  rw [register, find?_eq_none_iff_not_knows.mpr free, first]
  rfl

theorem register_of_free (unowned : ∀ e ∈ g.extensions, r.owner? e = none) :
    ∃ r', r.register g = .ok r' := by
  have none : g.extensions.findSome? (fun e => (r.owner? e).map (e, ·)) = none := by
    refine List.findSome?_eq_none_iff.mpr fun f hf => ?_
    rw [unowned f hf, Option.map_none]
  rw [register, find?_eq_none_iff_not_knows.mpr free, none]
  exact ⟨_, rfl⟩

end

/-- A registered grammar is found under its name, which was free. -/
theorem find?_of_register (h : r.register g = .ok r') : r'.find? g.name = some g := by
  obtain ⟨free, -, rfl⟩ := register_eq_ok h
  exact (find?_insertByName (find?_eq_none_iff.mp free) g.name).trans (if_pos rfl)

theorem size_of_register (h : r.register g = .ok r') : r'.size = r.size + 1 := by
  obtain ⟨-, -, rfl⟩ := register_eq_ok h
  exact length_insertByName g r.grammars

/-- A registered grammar is what its extensions are resolved to. -/
theorem forExtension?_of_register (h : r.register g = .ok r') (declared : e ∈ g.extensions) :
    r'.forExtension? e = some g := by
  have tried : r.attempt (.register g) = .ok r' := h
  have claims : (Operation.register g).Claims e := ⟨e, declared, SameExtension.refl e⟩
  rw [forExtension?, (attempt_eq_ok tried).owner e, if_pos claims, Option.bind_some]
  exact find?_of_register h

/-! ## Registrations in a history -/

namespace History

variable {h : History}

/-- Some successful operation claimed the extension, in one spelling or another. -/
def HasClaim (h : History) (e : String) : Prop := ∃ op ∈ h.successes, op.Claims e

instance (h : History) : DecidablePred h.HasClaim := fun _ =>
  inferInstanceAs (Decidable (∃ op ∈ h.successes, _))

theorem lastClaim?_eq_none_iff : h.lastClaim? e = none ↔ ¬ h.HasClaim e := by
  simp only [lastClaim?, List.find?_eq_none, decide_eq_true_eq, HasClaim, not_exists, not_and]

section

variable (sound : h.IsSound)

include sound

theorem IsSound.owner?_eq_none_iff : h.registry.owner? e = none ↔ ¬ h.HasClaim e := by
  rw [sound.owner, Option.map_eq_none_iff, lastClaim?_eq_none_iff]

/-- A claimed extension belongs to the name of the grammar that it is resolved to. -/
theorem IsSound.owner?_eq_some (claimed : h.HasClaim e) :
    ∃ k, h.registry.forExtension? e = some k ∧ h.registry.owner? e = some k.name := by
  obtain ⟨op, last⟩ : ∃ op, h.lastClaim? e = some op :=
    Option.ne_none_iff_exists'.mp fun none => lastClaim?_eq_none_iff.mp none claimed
  obtain ⟨k, known, resolved⟩ := sound.forExtension?_of_lastClaim? last
  refine ⟨k, resolved, ?_⟩
  rw [sound.owner, last, Option.map_some, name_of_get known]

/-- A registration is refused exactly for its name or for one of its extensions. -/
theorem IsSound.register_fails_iff :
    (∃ reason, h.registry.register g = .error reason) ↔
      h.registry.Knows g.name ∨ ∃ e ∈ g.extensions, h.HasClaim e := by
  constructor
  · rintro ⟨reason, refused⟩
    by_contra! ⟨free, unclaimed⟩
    obtain ⟨r, succeeds⟩ := register_of_free free fun e he =>
      sound.owner?_eq_none_iff.mpr (unclaimed e he)
    cases refused.symm.trans succeeds
  · intro taken
    cases outcome : h.registry.register g with
    | error reason => exact ⟨reason, rfl⟩
    | ok r =>
      -- A registration that succeeds had a free name and free extensions.
      obtain ⟨free, unowned, -⟩ := register_eq_ok outcome
      rcases taken with known | ⟨e, he, claimed⟩
      · exact absurd known (find?_eq_none_iff_not_knows.mp free)
      · exact absurd claimed (sound.owner?_eq_none_iff.mp (unowned e he))

end

/-- **When a registration is refused, and what one does.** After any run of operations on an empty
registry, a grammar is refused exactly when its name is taken or some extension of it was claimed by
an operation that succeeded. A taken name is reported whatever the extensions are. With a free name,
the report is about the first claimed extension in the order of the declaration, as it is written
there, and names the grammar that this extension is resolved to. A grammar that is not refused is
found under its name and through each of its extensions, and is one more; it would not be refused
either if it declared its extensions in other spellings, or in several. -/
theorem register_outcome (operations : List Operation) (g : Grammar) :
    let h := ofOperations operations
    ((∃ reason, h.registry.register g = .error reason) ↔
      h.registry.Knows g.name ∨ ∃ e ∈ g.extensions, h.HasClaim e) ∧
    (h.registry.Knows g.name → h.registry.register g = .error (.duplicate g.name)) ∧
    (¬ h.registry.Knows g.name → ∀ before e after, g.extensions = before ++ e :: after →
      (∀ f ∈ before, ¬ h.HasClaim f) → h.HasClaim e →
      ∃ k, h.registry.forExtension? e = some k ∧
        h.registry.register g = .error (.extensionConflict e k.name)) ∧
    ∀ r, h.registry.register g = .ok r →
      r.get g.name = .ok g ∧ (∀ e ∈ g.extensions, r.forExtension? e = some g) ∧
      r.size = h.registry.size + 1 ∧
      ∀ extensions, (∀ f ∈ extensions, ∃ e ∈ g.extensions, SameExtension e f) →
        ∃ r', h.registry.register { g with extensions } = .ok r' := by
  intro h
  have sound : h.IsSound := isSound_ofOperations operations
  refine ⟨sound.register_fails_iff, register_of_knows,
    fun free before e after declared unclaimed claimed => ?_, fun r succeeds => ?_⟩
  · obtain ⟨k, resolved, owned⟩ := sound.owner?_eq_some claimed
    have unowned : ∀ f ∈ before, h.registry.owner? f = none := fun f hf =>
      sound.owner?_eq_none_iff.mpr (unclaimed f hf)
    exact ⟨k, resolved, register_of_owner?_eq_some free declared unowned owned⟩
  · obtain ⟨free, unowned, -⟩ := register_eq_ok succeeds
    refine ⟨get_eq_ok_iff.mpr (find?_of_register succeeds),
      fun e => forExtension?_of_register succeeds, size_of_register succeeds,
      fun extensions respelled => ?_⟩
    refine register_of_free (find?_eq_none_iff_not_knows.mp free) fun f hf => ?_
    -- The registry does not tell spellings apart.
    obtain ⟨e, he, same⟩ := respelled f hf
    rw [owner?, ← sameExtension_iff.mp same]
    exact unowned e he

/-- A grammar that wants an extension of another one, which was mapped to a third, behind one of its
own; and a grammar that declares an extension of its own twice. -/
theorem register_outcome_of_moved_extension :
    let h := ofOperations [.register (.bundledAs "css" ["css"]), .register (.bundledAs "go" ["go"]),
      .mapExtension ".CSS" "go"]
    h.registry.register (.bundledAs "css2" ["less", ".Css", "go"]) =
      .error (.extensionConflict ".Css" "go") ∧
    h.registry.register (.bundledAs "css" ["Go"]) = .error (.duplicate "css") ∧
    ∃ r, h.registry.register (.bundledAs "scss" ["scss", "..SCSS"]) = .ok r ∧ r.size = 3 := by
  intro h
  have outcome := register_outcome [.register (.bundledAs "css" ["css"]),
    .register (.bundledAs "go" ["go"]), .mapExtension ".CSS" "go"]
  refine ⟨?_, (outcome _).2.1 (by decide +kernel), ?_⟩
  · obtain ⟨k, resolved, refused⟩ := (outcome (.bundledAs "css2" ["less", ".Css", "go"])).2.2.1
      (by decide +kernel) ["less"] ".Css" ["go"] rfl (by decide +kernel) (by decide +kernel)
    have go : h.registry.forExtension? ".Css" = some (.bundledAs "go" ["go"]) := by decide +kernel
    obtain rfl := Option.some.inj (resolved.symm.trans go)
    exact refused
  · cases scss : h.registry.register (.bundledAs "scss" ["scss", "..SCSS"]) with
    | error reason =>
      have free := mt (outcome (.bundledAs "scss" ["scss", "..SCSS"])).1.mp (by decide +kernel)
      exact absurd ⟨reason, scss⟩ free
    | ok r => exact ⟨r, rfl, ((outcome _).2.2.2 r scss).2.2.1⟩

end History

end Registry

end SyntaxForest
