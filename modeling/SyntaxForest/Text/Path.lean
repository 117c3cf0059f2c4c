/-!
# Paths

A path is text in which slashes part the names. Two texts may name one path: repeated slashes and
inner dots do not count. Order and extension are those of the parts, not of the text.

## Main definitions

* `Path.Component`, `Path.components`: the parts of a path
* `Path.compare`: the order of paths, part by part
* `Path.join`, `Path.extension?`: a path under a path, and the extension of its last name
-/

namespace SyntaxForest

/-- A path, as it is written. -/
structure Path where
  /-- The text. -/
  text : String
  deriving DecidableEq, Repr, Inhabited

namespace Path

/-- A part of a path. -/
inductive Component where
  /-- The root, at the front of a path that begins with a slash. -/
  | root
  /-- A dot at the front of a path. -/
  | current
  /-- Two dots. -/
  | parent
  /-- A name. -/
  | normal (name : String)
  deriving DecidableEq, Repr

/-- The texts between the slashes. -/
def pieces : List Char → List (List Char)
  | [] => [[]]
  | c :: rest =>
    if c = '/' then [] :: pieces rest
    else
      match pieces rest with
      | [] => [[c]]
      | piece :: later => (c :: piece) :: later

/-- The part that a piece is, unless it does not count. -/
def Component.ofPiece? (piece : List Char) : Option Component :=
  if piece = [] ∨ piece = ['.'] then none
  else if piece = ['.', '.'] then some .parent
  else some (.normal (String.ofList piece))

/-- The parts of a path. -/
def components (p : Path) : List Component :=
  match pieces p.text.toList with
  | [] => []
  | first :: later =>
    let front :=
      if first = [] ∧ later ≠ [] then [.root]
      else if first = ['.'] then [.current]
      else (Component.ofPiece? first).toList
    front ++ later.filterMap Component.ofPiece?

/-- Whether the path begins at the root. -/
def isAbsolute (p : Path) : Bool := p.text.toList.head? = some '/'

/-- The path of `later` as seen from `p`. -/
def join (p later : Path) : Path :=
  if later.isAbsolute then later
  else if p.text = "" ∨ p.text.toList.getLast? = some '/' then ⟨p.text ++ later.text⟩
  else ⟨p.text ++ "/" ++ later.text⟩

/-- The order of parts: the root, dots, then names in the order of their characters. -/
def Component.compare : Component → Component → Ordering
  | .normal a, .normal b => compareOfLessAndEq a b
  | .normal _, _ => .gt
  | _, .normal _ => .lt
  | .parent, .parent => .eq
  | .parent, _ => .gt
  | _, .parent => .lt
  | .current, .current => .eq
  | .current, .root => .gt
  | .root, .current => .lt
  | .root, .root => .eq

/-- The order of lists of parts, the first difference deciding. -/
def compareComponents : List Component → List Component → Ordering
  | [], [] => .eq
  | [], _ :: _ => .lt
  | _ :: _, [] => .gt
  | a :: as, b :: bs => (a.compare b).then (compareComponents as bs)

/-- The order of paths, part by part. -/
def compare (p q : Path) : Ordering := compareComponents p.components q.components

/-- The last name of a path, if it ends in a name. -/
def fileName? (p : Path) : Option String :=
  match p.components.getLast? with
  | some (.normal name) => some name
  | _ => none

/-- What follows the last dot of a name, unless that dot is its first character or there is none. -/
def extensionOf? (name : List Char) : Option (List Char) :=
  let backwards := name.reverse
  let stem := (backwards.dropWhile (· ≠ '.')).drop 1
  if stem = [] then none else some (backwards.takeWhile (· ≠ '.')).reverse

/-- The extension of the last name. -/
def extension? (p : Path) : Option String :=
  (p.fileName?.bind fun name => extensionOf? name.toList).map String.ofList

end Path

end SyntaxForest
