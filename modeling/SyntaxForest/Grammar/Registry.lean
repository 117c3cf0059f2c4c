import SyntaxForest.Grammar.Bundled
import SyntaxForest.Text.EditDistance
import SyntaxForest.Text.Path

/-!
# The grammar registry

Grammars are found by name, or by an extension that they claim. Extensions count without leading
dots and in lower case. A name that is not found may be close to one that is: the error then names
the closest.

## Main definitions

* `Registry`: the grammars, in name order, and the claimed extensions
* `Registry.register`, `Registry.mapExtension`: a new grammar, or another owner for an extension
* `Registry.get`, `Registry.forExtension?`, `Registry.forPath?`: the ways to find a grammar
* `Registry.closestName?`: the registered name closest to a name
-/

namespace SyntaxForest

/-- Why the registry refuses a request. -/
inductive RegistryError where
  /-- The name is taken. -/
  | duplicate (name : String)
  /-- The extension is claimed by the grammar of the name `owner`. -/
  | extensionConflict (extension owner : String)
  /-- No grammar has the name. -/
  | unknown (name : String) (suggestion : Option String)
  deriving DecidableEq, Repr

/-- The wording of a registry error. -/
def RegistryError.message : RegistryError → String
  | .duplicate name => s!"grammar '{name}' is already registered"
  | .extensionConflict extension owner =>
    s!"extension '.{extension}' is already claimed by grammar '{owner}'"
  | .unknown name none => s!"unknown grammar '{name}'"
  | .unknown name (some other) => s!"unknown grammar '{name}'; did you mean '{other}'?"

/-- The form in which extensions are compared: without leading dots, in lower case. -/
def normalizeExtension (extension : String) : String :=
  String.ofList ((extension.toList.dropWhile (· = '.')).map Char.toLower)

/-- Grammars by name, and the names of those that claim an extension. -/
structure Registry where
  /-- The grammars, in name order. -/
  grammars : List Grammar := []
  /-- The owner of each claimed extension, the latest claim first. -/
  extensions : List (String × String) := []
  deriving Repr, Inhabited

namespace Registry

/-- The grammar of a name. -/
def find? (r : Registry) (name : String) : Option Grammar := r.grammars.find? (·.name = name)

/-- The number of grammars. -/
def size (r : Registry) : Nat := r.grammars.length

/-- The name of the grammar that owns an extension. -/
def owner? (r : Registry) (extension : String) : Option String :=
  r.extensions.lookup (normalizeExtension extension)

/-- Makes a grammar the owner of an extension. -/
def claim (r : Registry) (name extension : String) : Registry :=
  let key := normalizeExtension extension
  { r with extensions := (key, name) :: r.extensions.filter (·.1 ≠ key) }

/-- A list in name order with one more grammar in its place. -/
def insertByName (g : Grammar) : List Grammar → List Grammar
  | [] => [g]
  | h :: rest => if g.name < h.name then g :: h :: rest else h :: insertByName g rest

/-- Adds a grammar, whose name and extensions must be free. -/
def register (r : Registry) (g : Grammar) : Except RegistryError Registry :=
  if (r.find? g.name).isSome then .error (.duplicate g.name)
  else
    match g.extensions.findSome? fun e => (r.owner? e).map (e, ·) with
    | some (extension, owner) => .error (.extensionConflict extension owner)
    | none =>
      let claimed := g.extensions.foldl (fun r e => r.claim g.name e) r
      .ok { claimed with grammars := insertByName g r.grammars }

/-! ### Suggestions -/

/-- How far a name is from another: the edit distance and the greater length. The first over the
second is the ratio by which names are compared. -/
structure Distance where
  /-- The edit distance. -/
  edits : Nat
  /-- The length of the longer name. -/
  length : Nat
  deriving DecidableEq, Repr

/-- How far two names are from each other. -/
def Distance.between (name other : String) : Distance :=
  ⟨editDistance name.toList other.toList, max name.toList.length other.toList.length⟩

/-- At most two characters of five differ. -/
def Distance.isClose (d : Distance) : Bool := 5 * d.edits ≤ 2 * d.length

/-- The ratio is at most that of another distance. -/
def Distance.le (d e : Distance) : Bool := d.edits * e.length ≤ e.edits * d.length

/-- The better of two suggestions, the first having been found earlier. Of equally good ones the
later counts. -/
def closer (best : Option (String × Distance)) (next : String × Distance) :
    Option (String × Distance) :=
  match best with
  | none => some next
  | some found => if next.2.le found.2 then some next else some found

/-- The registered name closest to a name, if one is close. -/
def closestName? (r : Registry) (name : String) : Option String :=
  let near := (r.grammars.map fun g => (g.name, Distance.between name g.name)).filter (·.2.isClose)
  (near.foldl closer none).map (·.1)

/-- The grammar of a name. -/
def get (r : Registry) (name : String) : Except RegistryError Grammar :=
  match r.find? name with
  | some g => .ok g
  | none => .error (.unknown name (r.closestName? name))

/-- Gives an extension to a registered grammar, whoever claimed it. -/
def mapExtension (r : Registry) (extension name : String) : Except RegistryError Registry :=
  match r.get name with
  | .error e => .error e
  | .ok _ => .ok (r.claim name extension)

/-- The grammar that owns an extension. -/
def forExtension? (r : Registry) (extension : String) : Option Grammar :=
  (r.owner? extension).bind r.find?

/-- The grammar that owns the extension of a path. -/
def forPath? (r : Registry) (p : Path) : Option Grammar := p.extension?.bind r.forExtension?

/-- A registry with these grammars, added in order. -/
def ofGrammars (grammars : List Grammar) : Except RegistryError Registry :=
  grammars.foldlM register {}

/-- A registry with every bundled grammar. -/
def withBundled : Except RegistryError Registry := ofGrammars Grammar.bundled

end Registry

end SyntaxForest
