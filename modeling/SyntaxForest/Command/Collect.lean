import SyntaxForest.Command.Report
import SyntaxForest.Files
import SyntaxForest.Grammar.Registry
import SyntaxForest.Parsing.Pool

/-!
# Sessions and their files

A session is what all commands share: the grammars, the time limit and the files. Paths on the
command line stand for files: a directory for all files below it that have a grammar, in the order
of their paths.

## Main definitions

* `Session`: what commands share
* `Session.collect`: the files that paths stand for, with their grammars
* `forFiles`: one step for each file, up to the first that fails
-/

namespace SyntaxForest.Command

/-- What commands share. -/
structure Session where
  /-- The grammars. -/
  registry : Registry
  /-- The time that a parse may take. -/
  operationLimit : Option Duration
  /-- The files. -/
  files : FileSystem

/-- A file with its grammar. -/
structure SourceFile where
  /-- The path. -/
  path : Path
  /-- The grammar. -/
  grammar : Grammar
  deriving DecidableEq, Repr, Inhabited

namespace Session

/-- The grammar of a file: the one that is forced, or the one that its extension resolves to. -/
def grammarFor? (s : Session) (forced : Option Grammar) (p : Path) : Option Grammar :=
  forced.or (s.registry.forPath? p)

/-- The file at a path, if it has a grammar. -/
def sourceFile? (s : Session) (forced : Option Grammar) (p : Path) : Option SourceFile :=
  (s.grammarFor? forced p).map (⟨p, ·⟩)

/-- The files below a directory that have a grammar, in the order of their paths. -/
def filesBelow (s : Session) (forced : Option Grammar) (p : Path) : List SourceFile :=
  ((s.files.filesBelow p).filterMap (s.sourceFile? forced)).mergeSort fun a b =>
    a.path.compare b.path ≠ .gt

/-- The files that a path stands for. A path to no directory stands for itself and must have a
grammar. -/
def filesAt (s : Session) (forced : Option Grammar) (p : Path) : Except Failure (List SourceFile) :=
  if s.files.isDirectory p then .ok (s.filesBelow forced p)
  else
    match s.sourceFile? forced p with
    | some file => .ok [file]
    | none => .error ⟨s!"no grammar for {p.text}; pass --language to choose one", []⟩

/-- The files that paths stand for, path by path. -/
def filesAtAll (s : Session) (forced : Option Grammar) :
    List Path → Except Failure (List SourceFile)
  | [] => .ok []
  | p :: rest =>
    match s.filesAt forced p with
    | .error f => .error f
    | .ok files => (filesAtAll s forced rest).map (files ++ ·)

/-- The grammar that a language names, if one is named. -/
def forcedGrammar (s : Session) : Option String → Except Failure (Option Grammar)
  | none => .ok none
  | some name =>
    match s.registry.get name with
    | .error e => .error ⟨e.message, []⟩
    | .ok g => .ok (some g)

/-- The files that paths stand for, in the grammar of the language if one is named. -/
def collect (s : Session) (paths : List Path) (language : Option String) :
    Except Failure (List SourceFile) :=
  match s.forcedGrammar language with
  | .error f => .error f
  | .ok forced => s.filesAtAll forced paths

/-- The contents of a file. -/
def readFile (s : Session) (p : Path) : Except Failure Bytes :=
  (s.files.read p).mapError fun e => ⟨s!"failed to read {p.text}", [e.message]⟩

/-- Reads a file and parses it with a parser of the pool. -/
def parseFile {σ : Type} (s : Session) (engine : Engine σ) (pool : ParserPool) (file : SourceFile) :
    StateM σ (Except Failure (Bytes × SyntaxTree × ParserPool)) :=
  match s.readFile file.path with
  | .error f => pure (.error f)
  | .ok source => do
    let (result, pool) ← pool.parseSource engine file.grammar source s.operationLimit none
    match result with
    | .error e => return .error ⟨s!"failed to parse {file.path.text}", [e.message]⟩
    | .ok tree => return .ok (source, tree, pool)

end Session

/-- Takes a step for each file in turn, with a state that goes from step to step. The first step
that fails ends them; what the steps before it have printed stays. -/
def forFiles {σ τ : Type} (step : τ → SourceFile → StateM σ (Except Failure (Output × τ)))
    (state : τ) : List SourceFile → StateM σ (Output × Except Failure τ)
  | [] => pure ({}, .ok state)
  | file :: rest => do
    match ← step state file with
    | .error f => return ({}, .error f)
    | .ok (output, state) =>
      let (later, result) ← forFiles step state rest
      return (output ++ later, result)

end SyntaxForest.Command
