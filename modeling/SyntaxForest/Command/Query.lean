import SyntaxForest.Command.Collect
import SyntaxForest.Query.Match

/-!
# The query command

Runs one query over files and prints a line for each capture of each accepted match. The query is
compiled once for each grammar name, and compiling it anew for each file would print the same lines.

## Main definitions

* `CaptureFormat`, `captureLine`: the line of a capture, as text or as a record that is written out
* `MatchTally`, `MatchTally.add`: the lines of matches and their numbers, match by match
* `QueryProgress`, `queryFile`: the state between two files, and the step for one file
* `runQuery`: the command
-/

namespace SyntaxForest.Command

/-- A text on one line: line ends are written as a backslash and the letter n. -/
def onOneLine (text : String) : String :=
  String.ofList (text.toList.flatMap fun c => if c = '\n' then ['\\', 'n'] else [c])

/-- A capture as a line of text: where it begins, its name and its text. -/
def captureText (p : Path) (name text : String) (start : Point) : String :=
  s!"{p.text}:{start.row + 1}:{start.column + 1} @{name} {onOneLine text}"

/-- A capture for other programs to read. Rows and columns count from one. -/
structure CaptureRecord where
  /-- The path of the file. -/
  path : String
  /-- The pattern that matches. -/
  pattern : Nat
  /-- The name of the capture. -/
  capture : String
  /-- The kind of the node. -/
  kind : String
  /-- The text of the node. -/
  text : String
  /-- The first byte of the node. -/
  startByte : Nat
  /-- The first byte after the node. -/
  endByte : Nat
  /-- The row where the node begins. -/
  row : Nat
  /-- The column where the node begins. -/
  column : Nat
  deriving DecidableEq, Repr

/-- How captures are shown. -/
inductive CaptureFormat where
  /-- As text, with a note about the numbers of matches behind it. -/
  | text
  /-- As records, written like this, and nothing else. -/
  | record (write : CaptureRecord → String)

/-- The line of a capture. -/
def captureLine (q : PatternQuery) (p : Path) (source : Bytes) (format : CaptureFormat)
    (pattern : Nat) (c : Capture) : String :=
  let name := ((q.captureName? c.index).map Bytes.toText).getD "?"
  let text := (c.text source).toText
  let range := c.node.range
  match format with
  | .text => captureText p name text range.startPoint
  | .record write =>
    write ⟨p.text, pattern, name, c.node.kind, text, range.startByte, range.endByte,
      range.startPoint.row + 1, range.startPoint.column + 1⟩

/-- What was printed of matches, and how many of them count. -/
structure MatchTally where
  /-- The lines. -/
  lines : List String := []
  /-- The number of accepted matches. -/
  accepted : Nat := 0
  /-- The number of rejected matches. -/
  rejected : Nat := 0
  deriving DecidableEq, Repr

/-- Counts one more match, and prints a line for each of its captures when it is accepted. -/
def MatchTally.add (q : PatternQuery) (p : Path) (source : Bytes) (format : CaptureFormat)
    (t : MatchTally) (m : QueryMatch) : MatchTally :=
  let f := q.filter m source
  if f.isRejected then { t with rejected := t.rejected + 1 }
  else
    { t with
      accepted := t.accepted + 1
      lines := t.lines ++ f.captures.map (captureLine q p source format f.pattern) }

/-- What the query command knows between two files. -/
structure QueryProgress (dialect : Regex.Dialect) (hash : Bytes → UInt64) where
  /-- The compiled queries, by grammar name. -/
  queries : List (String × PatternQuery) := []
  /-- The regular expressions of their predicates. -/
  cache : RegexCache dialect hash
  /-- The cursor that runs them. -/
  cursor : MatchCursor := {}
  /-- The parsers. -/
  pool : ParserPool := {}
  /-- The number of accepted matches. -/
  accepted : Nat := 0
  /-- The number of rejected matches. -/
  rejected : Nat := 0

/-- The query for a grammar: the one compiled for its name, or compiled now. -/
def QueryProgress.queryFor {σ : Type} {dialect : Regex.Dialect} {hash : Bytes → UInt64}
    (s : QueryProgress dialect hash) (engine : Engine σ) (grammar : Grammar) (source : Bytes) :
    StateM σ (Except QueryError PatternQuery × QueryProgress dialect hash) :=
  match s.queries.lookup grammar.name with
  | some q => pure (.ok q, s)
  | none => do
    match ← PatternQuery.compile engine grammar source s.cache with
    | (.error e, cache) => return (.error e, { s with cache })
    | (.ok q, cache) =>
      return (.ok q, { s with cache, queries := (grammar.name, q) :: s.queries })

/-- Runs the query over one file. -/
def queryFile {σ : Type} {dialect : Regex.Dialect} {hash : Bytes → UInt64} (engine : Engine σ)
    (session : Session) (query : Bytes) (format : CaptureFormat) (s : QueryProgress dialect hash)
    (file : SourceFile) : StateM σ (Except Failure (Output × QueryProgress dialect hash)) := do
  match ← s.queryFor engine file.grammar query with
  | (.error e, _) =>
    return .error ⟨s!"query does not compile for {file.grammar.name}", [e.message]⟩
  | (.ok q, s) =>
    match ← session.parseFile engine s.pool file with
    | .error f => return .error f
    | .ok (source, tree, pool) =>
      let (found, cursor) ← s.cursor.findMatches engine q tree.root
      let start : MatchTally := ⟨[], s.accepted, s.rejected⟩
      let tally := found.foldl (MatchTally.add q file.path source format) start
      return .ok (⟨tally.lines, []⟩,
        { s with cursor, pool, accepted := tally.accepted, rejected := tally.rejected })

/-- The note behind the lines. -/
def summary (accepted rejected : Nat) : String :=
  s!"{accepted} accepted, {rejected} rejected by predicates"

/-- The notes of a run over files. -/
def summaryNotes (format : CaptureFormat) (accepted rejected : Nat) : List String :=
  match format with
  | .text => [summary accepted rejected]
  | .record _ => []

/-- Runs a query over the files that paths stand for. -/
def runQuery {σ : Type} {dialect : Regex.Dialect} {hash : Bytes → UInt64} (engine : Engine σ)
    (session : Session) (cache : RegexCache dialect hash) (paths : List Path) (query : Bytes)
    (language : Option String) (format : CaptureFormat) : StateM σ (Output × Option Failure) :=
  match session.collect paths language with
  | .error f => pure ({}, some f)
  | .ok files => do
    match ← forFiles (queryFile engine session query format) { cache } files with
    | (output, .error f) => return (output, some f)
    | (output, .ok s) =>
      return (output ++ ⟨[], summaryNotes format s.accepted s.rejected⟩, none)

end SyntaxForest.Command
