import SyntaxForest.Config.Settings
import SyntaxForest.Proofs.Grammar.History
import SyntaxForest.Regex.Parser

/-!
# Configured extensions

A configuration keeps its entries under the texts of their extensions, and the registry compares
extensions without leading dots and case. So two entries may be about one extension. They are mapped
in the order of their texts, each in place of the one before it: of the entries about one extension
only the last takes effect, and the others are lost without an error.

## Main definitions

* `Config.TakesEffect`: an entry is resolved as it is written
* `Config.latest?`: the last entry about an extension

## Main results

* `Config.mapExtensions_eq_ok`: whom the extensions belong to behind the entries
* `Config.takesEffect_iff`: the entries that are resolved as they are written
* `Config.entries_take_effect_iff`: when all of them are
-/

namespace SyntaxForest

/-- However an extension is written, it is resolved to one grammar. -/
theorem SameExtension.forExtension?_eq {e f : String} (same : SameExtension e f) (r : Registry) :
    r.forExtension? e = r.forExtension? f := by
  rw [Registry.forExtension?, Registry.forExtension?, Registry.owner?, Registry.owner?,
    sameExtension_iff.mp same]

namespace Config

variable {r r' : Registry} {entries : List (String × String)}

/-- The extension of the entry is resolved to the registered grammar that the entry names. -/
def TakesEffect (r : Registry) (entry : String × String) : Prop :=
  ∃ g, r.get entry.2 = .ok g ∧ r.forExtension? entry.1 = some g

/-- Entries about one extension that both take effect name one grammar. -/
theorem TakesEffect.grammar_eq {a b : String × String} (ha : TakesEffect r a) (hb : TakesEffect r b)
    (same : SameExtension a.1 b.1) : a.2 = b.2 := by
  obtain ⟨g, known, resolved⟩ := ha
  obtain ⟨g', known', resolved'⟩ := hb
  -- The registry does not tell the two extensions apart, and a grammar has one name.
  rw [same.forExtension?_eq r, resolved'] at resolved
  obtain rfl := Option.some.inj resolved
  calc a.2 = g'.name := (Registry.name_of_get known).symm
    _ = b.2 := Registry.name_of_get known'

/-- The last entry about an extension, in whatever way it is written. -/
def latest? (entries : List (String × String)) (e : String) : Option (String × String) :=
  entries.reverse.find? fun entry => SameExtension entry.1 e

theorem latest?_cons (entry : String × String) (rest : List (String × String)) (e : String) :
    latest? (entry :: rest) e =
      (latest? rest e).or (if SameExtension entry.1 e then some entry else none) := by
  rw [latest?, List.reverse_cons, List.find?_append, latest?]
  congr 1
  by_cases same : SameExtension entry.1 e
  · rw [if_pos same, List.find?_cons_of_pos (by simpa using same)]
  · rw [if_neg same, List.find?_cons_of_neg (by simpa using same), List.find?_nil]

theorem mem_of_latest? {e : String} {last : String × String}
    (h : latest? entries e = some last) : last ∈ entries ∧ SameExtension last.1 e := by
  have same := List.find?_some h
  exact ⟨List.mem_reverse.mp (List.mem_of_find?_eq_some h), of_decide_eq_true same⟩

/-- Each entry is about an extension that has a last entry. -/
theorem exists_latest? {entry : String × String} (h : entry ∈ entries) :
    ∃ last, latest? entries entry.1 = some last := by
  refine Option.isSome_iff_exists.mp (List.find?_isSome.mpr ⟨entry, List.mem_reverse.mpr h, ?_⟩)
  simpa using SameExtension.refl entry.1

/-- **Behind the entries** an extension belongs to the grammar that the last entry about it names,
and without one to whom it belonged. No grammar comes in or goes, and all named ones are there. -/
theorem mapExtensions_eq_ok (h : mapExtensions entries r = (.ok (), r')) :
    (∀ entry ∈ entries, ∃ g, r.find? entry.2 = some g) ∧ r'.grammars = r.grammars ∧
      ∀ e, r'.owner? e = ((latest? entries e).map (·.2)).or (r.owner? e) := by
  -- By induction on the entries: the later ones are mapped in the registry that the first one left.
  induction entries generalizing r with
  | nil =>
    obtain rfl := (Prod.mk.inj h).2
    exact ⟨by simp, rfl, fun e => rfl⟩
  | cons entry rest ih =>
    obtain ⟨extension, name⟩ := entry
    rw [mapExtensions] at h
    split at h
    next => cases h
    next mapped succeeds =>
      obtain ⟨known, rfl⟩ := Registry.mapExtension_eq_ok succeeds
      -- A claim leaves the grammars alone, so what the later entries name was there before.
      obtain ⟨named, grammars, owners⟩ := ih h
      refine ⟨List.forall_mem_cons.mpr ⟨known, named⟩, grammars, fun e => ?_⟩
      rw [owners, latest?_cons, Registry.owner?_claim]
      by_cases same : SameExtension extension e
      · rw [if_pos same, if_pos same]
        cases latest? rest e with
        | none => rfl
        | some last => rfl
      · rw [if_neg same, if_neg same, Option.or_none]

variable {dialect : Regex.Dialect} {hash : Bytes → UInt64} {c : Config}
  {cache cache' : RegexCache dialect hash}

theorem mapExtensions_of_apply_eq_ok (applied : c.apply r cache = (.ok (), r', cache')) :
    mapExtensions c.extensions.entries r = (.ok (), r') := by
  rw [apply] at applied
  split at applied
  next => cases applied
  next mapped same =>
    obtain rfl := (Prod.mk.inj (Prod.mk.inj applied).2).1
    exact same

section

variable (applied : c.apply r cache = (.ok (), r', cache')) {entry : String × String}
  (member : entry ∈ c.extensions.entries)

include applied member

/-- The extension of an entry is resolved to the grammar that the last entry about it names. -/
theorem exists_latest?_takesEffect :
    ∃ last, latest? c.extensions.entries entry.1 = some last ∧
      TakesEffect r' (entry.1, last.2) := by
  obtain ⟨named, grammars, owners⟩ :=
    mapExtensions_eq_ok (mapExtensions_of_apply_eq_ok applied)
  obtain ⟨last, found⟩ := exists_latest? member
  obtain ⟨g, known⟩ := named last (mem_of_latest? found).1
  have known' : r'.find? last.2 = some g := by rw [Registry.find?, grammars]; exact known
  refine ⟨last, found, g, Registry.get_eq_ok_iff.mpr known', ?_⟩
  rw [Registry.forExtension?, owners, found, Option.map_some, Option.some_or, Option.bind_some]
  exact known'

/-- **An entry takes effect** exactly when the last entry about its extension names the same
grammar. -/
theorem takesEffect_iff :
    TakesEffect r' entry ↔
      ∃ last, latest? c.extensions.entries entry.1 = some last ∧ last.2 = entry.2 := by
  obtain ⟨last, found, effect⟩ := exists_latest?_takesEffect applied member
  constructor
  · intro written
    exact ⟨last, found, effect.grammar_eq written (SameExtension.refl entry.1)⟩
  · rintro ⟨last', found', same⟩
    obtain rfl := Option.some.inj (found.symm.trans found')
    rw [same] at effect
    exact effect

end

/-- **Which configured mappings take effect.** When a configuration is applied without an error, the
extension of each entry is resolved to the grammar that the last entry about this extension names,
in the order of the texts. So an entry is resolved as it is written exactly when that last entry
names the same grammar, and all entries are exactly when no two entries about one extension name
different grammars. -/
theorem entries_take_effect_iff (applied : c.apply r cache = (.ok (), r', cache')) :
    (∀ entry ∈ c.extensions.entries,
      (∃ last, latest? c.extensions.entries entry.1 = some last ∧
        TakesEffect r' (entry.1, last.2)) ∧
      (TakesEffect r' entry ↔
        ∃ last, latest? c.extensions.entries entry.1 = some last ∧ last.2 = entry.2)) ∧
    ((∀ entry ∈ c.extensions.entries, TakesEffect r' entry) ↔
      ∀ a ∈ c.extensions.entries, ∀ b ∈ c.extensions.entries,
        SameExtension a.1 b.1 → a.2 = b.2) := by
  refine ⟨fun entry member =>
    ⟨exists_latest?_takesEffect applied member, takesEffect_iff applied member⟩,
    fun effective a ha b hb same => ?_, fun agree entry member => ?_⟩
  · exact (effective a ha).grammar_eq (effective b hb) same
  · obtain ⟨last, found, -⟩ := exists_latest?_takesEffect applied member
    obtain ⟨hlast, same⟩ := mem_of_latest? found
    exact (takesEffect_iff applied member).mpr ⟨last, found, agree last hlast entry member same⟩

/-! ## Entries about one extension -/

/-- A registry of two grammars, with further entries for extensions in front. -/
def cssAndGo (entries : List (String × String)) : Registry where
  grammars := [.bundledAs "css" ["css"], .bundledAs "go" ["go"]]
  extensions := entries ++ [("go", "go"), ("css", "css")]

/-- Two ways of writing one extension, with one grammar. -/
def respelledConfig : Config :=
  { extensions := .ofList [("a", "css"), ("scss", "css"), ("..A", "css")] }

theorem entries_take_effect_of_respelled :
    respelledConfig.apply (cssAndGo []) ({} : RegexCache .standard RegexCache.byteHash) =
      (.ok (), cssAndGo [("scss", "css"), ("a", "css")], {}) ∧
    respelledConfig.extensions.entries = [("..A", "css"), ("a", "css"), ("scss", "css")] ∧
    ∀ entry ∈ respelledConfig.extensions.entries,
      TakesEffect (cssAndGo [("scss", "css"), ("a", "css")]) entry := by
  have applied : respelledConfig.apply (cssAndGo [])
      ({} : RegexCache .standard RegexCache.byteHash) =
      (.ok (), cssAndGo [("scss", "css"), ("a", "css")], {}) := rfl
  exact ⟨applied, by decide +kernel, (entries_take_effect_iff applied).2.mpr (by decide +kernel)⟩

/-- Two ways of writing one extension, with two grammars. -/
def clashingConfig : Config := { extensions := .ofList [("A", "go"), ("a", "css")] }

/-- **An entry can be lost.** Nothing is wrong with the settings and they are applied without an
error, but the extension of the first entry is resolved to the grammar that the second names. -/
theorem clashing_entry_is_lost :
    clashingConfig.issues = [] ∧
    clashingConfig.apply (cssAndGo []) ({} : RegexCache .standard RegexCache.byteHash) =
      (.ok (), cssAndGo [("a", "css")], {}) ∧
    ("A", "go") ∈ clashingConfig.extensions.entries ∧
    (cssAndGo [("a", "css")]).forExtension? "A" = some (.bundledAs "css" ["css"]) ∧
    ¬ TakesEffect (cssAndGo [("a", "css")]) ("A", "go") := by
  refine ⟨by decide +kernel, rfl, by decide +kernel, rfl, fun effective => ?_⟩
  have later : TakesEffect (cssAndGo [("a", "css")]) ("a", "css") := ⟨_, rfl, rfl⟩
  exact absurd (effective.grammar_eq later (by decide +kernel)) (by decide)

end Config

end SyntaxForest
