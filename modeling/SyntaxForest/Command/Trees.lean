import SyntaxForest.Command.Collect
import SyntaxForest.Composite.Markdown
import SyntaxForest.Composite.Walk

/-!
# The commands that print trees

One command prints the tree of each file in the notation of the engine, with a note about the syntax
errors in it. Another prints a Markdown document as an outline of its blocks, with the tree of the
inline content beside each block that has some.

## Main definitions

* `errorNotes`: the note about the syntax errors of a tree
* `parseOne`, `runParse`: the trees of files
* `markdownLines`, `runMarkdown`: the outline of a Markdown document
-/

namespace SyntaxForest.Command

/-! ### Files -/

/-- The note about syntax errors: their number and the line of the first. -/
def errorNotes (root : Node) : List String :=
  match root.defects with
  | [] => []
  | first :: rest =>
    let line := first.startPoint.row + 1
    [s!"  {rest.length + 1} syntax error(s), first at line {line}"]

/-- Prints the tree of one file. -/
def parseOne {σ : Type} (engine : Engine σ) (session : Session) (pool : ParserPool)
    (file : SourceFile) : StateM σ (Except Failure (Output × ParserPool)) := do
  match ← session.parseFile engine pool file with
  | .error f => return .error f
  | .ok (_, tree, pool) =>
    let header := s!"{file.path.text} ({file.grammar.name})"
    return .ok (⟨[header, tree.sexp], errorNotes tree.root⟩, pool)

/-- Prints the trees of the files that paths stand for. -/
def runParse {σ : Type} (engine : Engine σ) (session : Session) (paths : List Path)
    (language : Option String) : StateM σ (Output × Option Failure) :=
  match session.collect paths language with
  | .error f => pure ({}, some f)
  | .ok files => do
    match ← forFiles (parseOne engine session) {} files with
    | (output, .error f) => return (output, some f)
    | (output, .ok _) => return (output, none)

/-! ### Documents of two grammars -/

/-- A failure to compose a document. -/
def ofComposeError (e : ComposeError) : Failure := ⟨e.message, e.cause?.toList⟩

mutual

/-- The number of nodes above the node of an identity in a tree. -/
def depthOf? (id : Nat) : Node → Option Nat
  | .mk l children => if l.id = id then some 0 else (depthOfAll? id children).map (· + 1)

/-- The number of nodes above the node of an identity in several trees. -/
def depthOfAll? (id : Nat) : List Node → Option Nat
  | [] => none
  | c :: cs => (depthOf? id c).or (depthOfAll? id cs)

end

/-- The line of a node of a document: indented by its depth, with the tree of its inline content. -/
def markdownLine (root : Node) (sexpOf : Node → Option String) (n : CompositeNode) : String :=
  let indent := String.join (List.replicate ((depthOf? n.node.id root).getD 0) "  ")
  let start := n.node.range.startPoint
  let line := s!"{indent}{n.node.kind} [{start.row + 1}:{start.column + 1}]"
  match sexpOf n.node with
  | some sexp => line ++ " " ++ sexp
  | none => line

/-- The lines of a document. -/
def markdownLines (c : CompositeTree) : List String :=
  c.walk.map (markdownLine c.root fun node => (c.secondaryTree? node).map (·.tree.sexp))

/-- Prints the trees of a Markdown document. -/
def runMarkdown {σ : Type} {dialect : Regex.Dialect} {hash : Bytes → UInt64} (engine : Engine σ)
    (session : Session) (cache : RegexCache dialect hash) (file : Path) :
    StateM σ (Output × Option Failure) :=
  match session.readFile file with
  | .error f => pure ({}, some f)
  | .ok source => do
    match ← MarkdownParser.create engine cache with
    | (.error e, _) => return ({}, some (ofComposeError e))
    | (.ok parser, _) =>
      let parser := parser.setOperationLimit session.operationLimit
      match ← parser.parse engine source none none with
      | (.error e, _) =>
        return ({}, some ((ofComposeError e).under s!"failed to parse {file.text}"))
      | (.ok c, _) => return (⟨markdownLines c, []⟩, none)

end SyntaxForest.Command
