import SyntaxForest.Grammar.Registry
import SyntaxForest.Parsing.Error
import SyntaxForest.Regex.Cache

/-!
# Settings

What a configuration can set: the time that a parse may take, the size of the cache of regular
expressions, and further extensions of grammars. Validation names every setting that makes no sense,
not only the first.

## Main definitions

* `ExtensionMap`: grammar names under extensions, in the order of the extensions
* `Config`: the settings
* `Config.issues`: what is wrong with them
* `Config.apply`: their effect on a registry and a cache
-/

namespace SyntaxForest

/-- Puts an entry in its place, instead of the one with its key. -/
def insertEntry (key value : String) : List (String × String) → List (String × String)
  | [] => [(key, value)]
  | (k, v) :: rest =>
    if key < k then (key, value) :: (k, v) :: rest
    else if k < key then (k, v) :: insertEntry key value rest
    else (key, value) :: rest

theorem mem_insertEntry {key value : String} {entries : List (String × String)}
    {entry : String × String} (h : entry ∈ insertEntry key value entries) :
    entry = (key, value) ∨ entry ∈ entries := by
  induction entries with
  | nil => simpa [insertEntry] using h
  | cons e rest ih =>
    obtain ⟨k, v⟩ := e
    simp only [insertEntry] at h
    split at h
    · simpa using h
    · split at h
      · rcases List.mem_cons.1 h with h | h
        · exact .inr (h ▸ List.mem_cons_self)
        · exact (ih h).imp_right (List.mem_cons_of_mem _)
      · rcases List.mem_cons.1 h with h | h
        · exact .inl h
        · exact .inr (List.mem_cons_of_mem _ h)

theorem pairwise_insertEntry {key value : String} {entries : List (String × String)}
    (h : entries.Pairwise (·.1 < ·.1)) : (insertEntry key value entries).Pairwise (·.1 < ·.1) := by
  induction entries with
  | nil => simp [insertEntry]
  | cons e rest ih =>
    obtain ⟨k, v⟩ := e
    rw [List.pairwise_cons] at h
    simp only [insertEntry]
    split
    · next less =>
      refine List.pairwise_cons.2 ⟨fun entry member => ?_, List.pairwise_cons.2 h⟩
      rcases List.mem_cons.1 member with rfl | member
      · exact less
      · exact String.lt_trans less (h.1 entry member)
    · split
      · next _ more =>
        refine List.pairwise_cons.2 ⟨fun entry member => ?_, ih h.2⟩
        rcases mem_insertEntry member with rfl | member
        · exact more
        · exact h.1 entry member
      · next notLess notMore =>
        have same : key = k :=
          String.le_antisymm (String.not_lt.1 notMore) (String.not_lt.1 notLess)
        exact List.pairwise_cons.2 ⟨fun entry member => same ▸ h.1 entry member, h.2⟩

/-- Grammar names under extensions. -/
structure ExtensionMap where
  /-- The entries. -/
  entries : List (String × String)
  /-- The entries are in the order of their extensions, each of which occurs once. -/
  ordered : entries.Pairwise (·.1 < ·.1)

namespace ExtensionMap

/-- The map without entries. -/
def empty : ExtensionMap := ⟨[], .nil⟩

/-- The map with one more entry. -/
def insert (m : ExtensionMap) (extension grammar : String) : ExtensionMap :=
  ⟨insertEntry extension grammar m.entries, pairwise_insertEntry m.ordered⟩

/-- The map with these entries, of which later ones replace earlier ones of the same extension. -/
def ofList (entries : List (String × String)) : ExtensionMap :=
  entries.foldl (fun m e => m.insert e.1 e.2) empty

end ExtensionMap

/-- The settings. -/
structure Config where
  /-- The time that a parse may take, in milliseconds. -/
  operationLimit : Option Nat := none
  /-- The greatest number of regular expressions in the cache. -/
  cacheCapacity : Option Nat := none
  /-- Further extensions of grammars. -/
  extensions : ExtensionMap := .empty

/-- A setting that makes no sense. -/
inductive ValidationIssue where
  /-- The setting must not be zero. -/
  | zeroValue (field : String)
  /-- An entry of the setting has a blank extension or grammar name. -/
  | emptyName (field entry : String)
  deriving DecidableEq, Repr

/-- The wording of an issue. -/
def ValidationIssue.message : ValidationIssue → String
  | .zeroValue field => s!"'{field}' must be greater than zero"
  | .emptyName field entry =>
    s!"'{field}' entry '{entry}' has an empty extension or grammar name"

namespace Config

/-- The text is empty or white space. -/
def isBlankText (text : List Char) : Bool := text.all Unicode.isWhiteSpace

/-- The issue of a number that is set to zero. -/
def zeroIssue (field : String) (value : Option Nat) : List ValidationIssue :=
  if value = some 0 then [.zeroValue field] else []

/-- An entry has a blank grammar name, or an extension that is blank without its leading dots. -/
def isBlankEntry (entry : String × String) : Bool :=
  isBlankText (entry.1.toList.dropWhile (· = '.')) || isBlankText entry.2.toList

/-- What is wrong with the settings: the limit, the capacity, then the extensions in order. -/
def issues (c : Config) : List ValidationIssue :=
  zeroIssue "parser.operation_limit_ms" c.operationLimit ++
    zeroIssue "query.regex_cache_capacity" c.cacheCapacity ++
    (c.extensions.entries.filter isBlankEntry).map fun entry =>
      .emptyName "languages.extensions" entry.1

/-- The greatest number of regular expressions in the cache, set or not. -/
def capacity (c : Config) : Nat := c.cacheCapacity.getD RegexCache.defaultCapacity

/-- The time that a parse may take. -/
def limit (c : Config) : Option Duration := c.operationLimit.map .ofMillis

/-- Whether nothing is set. -/
def isDefault (c : Config) : Bool :=
  c.operationLimit.isNone && c.cacheCapacity.isNone && c.extensions.entries.isEmpty

/-- Maps extensions in order, up to the first that names an unknown grammar. -/
def mapExtensions : List (String × String) → Registry → Except RegistryError Unit × Registry
  | [], r => (.ok (), r)
  | (extension, grammar) :: rest, r =>
    match r.mapExtension extension grammar with
    | .error e => (.error e, r)
    | .ok r => mapExtensions rest r

/-- Maps the extensions and then sizes the cache. When a grammar is unknown, the extensions before
it stay mapped and the cache is left alone. -/
def apply {dialect : Regex.Dialect} {hash : Bytes → UInt64} (c : Config) (r : Registry)
    (cache : RegexCache dialect hash) :
    Except RegistryError Unit × Registry × RegexCache dialect hash :=
  match mapExtensions c.extensions.entries r with
  | (.error e, r) => (.error e, r, cache)
  | (.ok (), r) => (.ok (), r, cache.setCapacity c.capacity)

end Config

end SyntaxForest
