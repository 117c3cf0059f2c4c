import SyntaxForest.Program.Run
import SyntaxForest.Regex.Parser

/-!
# The program

Reads the files that the arguments mention, runs the command on them and prints what it says.
Without a parsing engine at hand every query is refused and no text is parsed; listing the grammars,
and everything that fails before a parse, needs none.
-/

namespace SyntaxForest.Main

open Command

/-- The texts in an argument that may be a path: the whole of it, and a value attached to an option
of either length. -/
def pathsIn (argument : String) : List Path :=
  let text := argument.toList
  let candidates := [text, (text.dropWhile (· ≠ '=')).drop 1, text.drop 2]
  (candidates.filter (· ≠ [])).map fun candidate => ⟨String.ofList candidate⟩

/-- The first names of the paths that arguments may mention, with the name of the configuration.
None when a path goes through the current directory itself or above it. -/
def mentioned (arguments : List String) : Option (List String) :=
  (Config.fileName :: arguments.flatMap pathsIn).mapM fun p =>
    match p.components with
    | .normal name :: rest => if rest.contains .parent then none else some name
    | _ => none

/-- The number of links behind each other that are followed. -/
def linksFollowed : Nat := 2

/-- Reads a file, a directory with all below it, or a link with what it leads to. What lies behind
further links is left out when this many have been followed. -/
partial def snapshot (links : Nat) (entry : IO.FS.DirEntry) : IO FileEntry := do
  let behind (links : Nat) : IO FileEntry := do
    if ← entry.path.isDir then
      let children ← entry.path.readDir
      let below ← children.toList.mapM fun child =>
        return (child.fileName, ← snapshot links child)
      return .directory below
    else return .file (← IO.FS.readBinFile entry.path).data.toList
  match (← entry.path.symlinkMetadata).type, links with
  | .symlink, links + 1 =>
    if ← entry.path.pathExists then return .link (← behind links) else return .special
  | .symlink, 0 | .other, _ => return .special
  | .file, _ | .dir, _ => behind links

/-- Reads the entries of the current directory that arguments may mention. -/
def filesFor (arguments : List String) : IO FileSystem := do
  let home ← IO.currentDir
  let entries := (← home.readDir).toList
  let wanted :=
    match mentioned arguments with
    | some names => entries.filter fun (e : IO.FS.DirEntry) => names.contains e.fileName
    | none => entries
  let below ← wanted.mapM fun e => do return (e.fileName, ← snapshot linksFollowed e)
  return ⟨⟨home.toString⟩, .directory below⟩

end SyntaxForest.Main

open SyntaxForest in
/-- Runs the program on its arguments. The result is its exit code. -/
def main (arguments : List String) : IO UInt32 := do
  let env : Command.Environment := ⟨← Main.filesFor arguments, ← IO.getEnv "CANOPY_LOG"⟩
  let cache : RegexCache .standard RegexCache.byteHash := {}
  let (outcome, _) := (Command.run .absent cache env arguments).run ()
  IO.print outcome.stdout
  IO.eprint outcome.stderr
  return UInt32.ofNat outcome.exit
