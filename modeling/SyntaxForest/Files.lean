import SyntaxForest.Text.Path
import SyntaxForest.Text.Utf8

/-!
# Files

The files that a program can see: a tree of directories, as it stands when the program begins. Paths
lead from the home directory, or from the root to it, and they lead on behind a link. A list of what
lies below a directory takes links for what they are.

## Main definitions

* `FileEntry`, `FileSystem`: files, directories and links
* `FileEntry.followed`: what a link leads to
* `FileSystem.entryAt`: what a path leads to
* `FileSystem.read`, `FileSystem.readText`: the contents of a file
* `FileSystem.filesBelow`: all files under a directory
-/

namespace SyntaxForest

/-- What a directory holds under a name. -/
inductive FileEntry where
  /-- A regular file with its contents. -/
  | file (contents : Bytes)
  /-- A directory with its entries, in the order in which they are listed. -/
  | directory (entries : List (String × FileEntry))
  /-- A link, with the entry that it leads to. -/
  | link (target : FileEntry)
  /-- None of these, with nothing to read behind it: a link that leads nowhere, a pipe or
  a device. -/
  | special
  deriving Inhabited

/-- What a link leads to, over further links. All other entries stand for themselves. -/
def FileEntry.followed : FileEntry → FileEntry
  | .link target => target.followed
  | entry => entry

/-- Why a file cannot be read. -/
inductive FileError where
  /-- The path leads nowhere. -/
  | notFound
  /-- The path leads through a file. -/
  | notADirectory
  /-- The path leads to a directory. -/
  | isADirectory
  /-- The contents are no text. -/
  | notText
  deriving DecidableEq, Repr

/-- The wording of a file error. -/
def FileError.message : FileError → String
  | .notFound => "No such file or directory (os error 2)"
  | .notADirectory => "Not a directory (os error 20)"
  | .isADirectory => "Is a directory (os error 21)"
  | .notText => "stream did not contain valid UTF-8"

/-- The files under a home directory. -/
structure FileSystem where
  /-- The path of the home directory. -/
  home : Path
  /-- The home directory. -/
  root : FileEntry
  deriving Inhabited

namespace FileSystem

/-- What these parts of a path lead to from an entry, with the directories above it, the nearest
first. Of what lies above all of them, or above the end of a link, no entries are known. -/
def descend (above : List FileEntry) (here : FileEntry) :
    List Path.Component → Except FileError FileEntry
  | [] => .ok here
  | part :: rest =>
    match here with
    | .directory entries =>
      match part with
      | .normal name =>
        match entries.lookup name with
        | none => .error .notFound
        | some (.link target) => descend [] target.followed rest
        | some entry => descend (here :: above) entry rest
      | .parent =>
        match above with
        | [] => descend [] (.directory []) rest
        | up :: above => descend above up rest
      | .root | .current => descend above here rest
    | .special => .error .notFound
    | .file _ | .link _ => .error .notADirectory

/-- The parts of a path behind the home directory. None when the path begins at the root and does
not lead there. -/
def partsFromHome? (fs : FileSystem) (p : Path) : Option (List Path.Component) :=
  let home := fs.home.components
  if p.components.take home.length = home then some (p.components.drop home.length)
  else if p.isAbsolute then none
  else some p.components

/-- Whether a path only makes sense for a directory: it ends in a slash, or in a slash and a dot. -/
def asksForDirectory (p : Path) : Bool :=
  match p.text.toList.reverse with
  | '/' :: _ | '.' :: '/' :: _ => true
  | _ => false

/-- What a path leads to. -/
def entryAt (fs : FileSystem) (p : Path) : Except FileError FileEntry :=
  if p.text = "" then .error .notFound
  else
    match fs.partsFromHome? p with
    | none => .error .notFound
    | some parts =>
      match descend [] fs.root.followed parts with
      | .ok (.file contents) =>
        if asksForDirectory p then .error .notADirectory else .ok (.file contents)
      | result => result

/-- Whether a path leads to a directory. -/
def isDirectory (fs : FileSystem) (p : Path) : Bool :=
  match fs.entryAt p with
  | .ok (.directory _) => true
  | _ => false

/-- Whether a path leads to a file. -/
def isFile (fs : FileSystem) (p : Path) : Bool :=
  match fs.entryAt p with
  | .ok (.file _) => true
  | _ => false

/-- The contents of a file. -/
def read (fs : FileSystem) (p : Path) : Except FileError Bytes :=
  match fs.entryAt p with
  | .error e => .error e
  | .ok (.directory _) => .error .isADirectory
  | .ok (.file contents) => .ok contents
  | .ok _ => .error .notFound

/-- The text of a file. -/
def readText (fs : FileSystem) (p : Path) : Except FileError String :=
  match fs.read p with
  | .error e => .error e
  | .ok contents =>
    match contents.toText? with
    | none => .error .notText
    | some text => .ok text

end FileSystem

mutual

/-- The paths of all regular files at or below an entry, which lies at `p`. A link is no regular
file, and what lies behind it is not listed. -/
def FileEntry.files (p : Path) : FileEntry → List Path
  | .file _ => [p]
  | .directory entries => FileEntry.filesOfAll p entries
  | .link _ | .special => []

/-- The paths of all regular files at or below the entries of the directory at `p`. -/
def FileEntry.filesOfAll (p : Path) : List (String × FileEntry) → List Path
  | [] => []
  | (name, entry) :: rest => entry.files (p.join ⟨name⟩) ++ FileEntry.filesOfAll p rest

end

namespace FileSystem

/-- The paths of all regular files below a directory, in the order in which they are listed. -/
def filesBelow (fs : FileSystem) (p : Path) : List Path :=
  match fs.entryAt p with
  | .ok entry => entry.files p
  | .error _ => []

end FileSystem

end SyntaxForest
