import SyntaxForest.Command.Query
import SyntaxForest.Command.Trees
import SyntaxForest.Program.Arguments
import SyntaxForest.Program.ConfigFile
import SyntaxForest.Program.LineDiff
import SyntaxForest.Program.LogFilter
import SyntaxForest.Tree.Outline

/-!
# The program

What the program does for a command line, as a function of the files, the environment and the
engine: the commands that list the grammars and that parse a changed file again, and the session in
which every command runs. Records of captures are written as JSON objects.

## Main definitions

* `languageLines`, `runReparse`: the lines of these two commands
* `Json.object`, `captureObject`: objects, and the one of a capture
* `Session.establish`: the session that the options and the configuration make
* `run`: the whole program
-/

namespace SyntaxForest.Command

/-! ### Languages -/

/-- A text filled up with blanks to a width. -/
def padded (width : Nat) (text : String) : String :=
  text ++ String.ofList (List.replicate (width - text.length) ' ')

/-- The line of a grammar: its name and its extensions. -/
def languageLine (g : Grammar) : String :=
  let extensions :=
    if g.extensions = [] then "(no extensions)"
    else " ".intercalate (g.extensions.map ("." ++ ·))
  padded 16 g.name ++ " " ++ extensions

/-- The lines of all grammars, in name order. -/
def languageLines (r : Registry) : List String := r.grammars.map languageLine

/-! ### Parsing again -/

/-- The line of a changed range, with places counted from one. -/
def rangeLine (r : Range) : String :=
  let start := r.startPoint
  let stop := r.endPoint
  s!"  bytes {r.startByte}..{r.endByte} (line {start.row + 1} column {start.column + 1} " ++
    s!"to line {stop.row + 1} column {stop.column + 1})"

/-- The lines of changed ranges. -/
def rangeLines (ranges : List Range) : List String :=
  "Changed ranges:" :: if ranges = [] then ["  none"] else ranges.map rangeLine

/-- A line of a difference with its sign. -/
def signed : LineDiff.Line String → String
  | .same line => " " ++ line
  | .minus line => "-" ++ line
  | .plus line => "+" ++ line

/-- The lines of the difference between two outlines of a file. -/
def differenceLines (file : Path) (old new : List String) : List String :=
  "" :: s!"--- {file.text} (before)" :: s!"+++ {file.text} (after)" ::
    (LineDiff.diff old new).map signed

/-- The grammar for one file: that of the first file that the path stands for. -/
def Session.firstGrammar (s : Session) (file : Path) (language : Option String) :
    Except Failure Grammar :=
  match s.collect [file] language with
  | .error f => .error f
  | .ok [] => .error ⟨s!"no grammar for {file.text}", []⟩
  | .ok (found :: _) => .ok found.grammar

/-- Replaces bytes of a text, parses it before and after, and prints what changes. -/
def reparse {σ : Type} (engine : Engine σ) (session : Session) (grammar : Grammar) (file : Path)
    (source : Bytes) (start stop : Nat) (insert : Bytes) : StateM σ (Output × Option Failure) :=
  match SyntaxParser.ofGrammar engine grammar with
  | .error e => pure ({}, some ⟨e.message, []⟩)
  | .ok parser => do
    let parser := parser.setOperationLimit session.operationLimit
    match ← parser.parse engine source none none with
    | (.error e, _) => return ({}, some ⟨e.message, []⟩)
    | (.ok old, parser) =>
      match TextEdit.replace source start stop insert with
      | .error e => return ({}, some ⟨e.message, []⟩)
      | .ok (edit, newSource) =>
        let edited := engine.edit old edit
        match ← parser.parse engine newSource (some edited) none with
        | (.error e, _) => return ({}, some ⟨e.message, []⟩)
        | (.ok new, _) =>
          let ranges ← engine.changedRanges edited new
          let lines :=
            rangeLines ranges ++ differenceLines file (outline old.root) (outline new.root)
          return (⟨lines, []⟩, none)

/-- Replaces bytes of a file and prints what changes. The file itself stays as it is. -/
def runReparse {σ : Type} (engine : Engine σ) (session : Session) (file : Path) (start stop : Nat)
    (insert : String) (language : Option String) : StateM σ (Output × Option Failure) :=
  match session.firstGrammar file language with
  | .error f => pure ({}, some f)
  | .ok grammar =>
    match session.readFile file with
    | .error f => pure ({}, some f)
    | .ok source => reparse engine session grammar file source start stop (.ofText insert)

/-! ### JSON -/

namespace Json

/-- A hexadecimal digit of a number. -/
def hexDigit (n : Nat) : Char := Nat.digitChar (n % 16)

/-- A character in a string. -/
def escape (c : Char) : List Char :=
  match c with
  | '"' => ['\\', '"']
  | '\\' => ['\\', '\\']
  | '\x08' => ['\\', 'b']
  | '\x0C' => ['\\', 'f']
  | '\n' => ['\\', 'n']
  | '\r' => ['\\', 'r']
  | '\t' => ['\\', 't']
  | c =>
    if c < ' ' then ['\\', 'u', '0', '0', hexDigit (c.toNat / 16), hexDigit c.toNat] else [c]

/-- A text between quotes. -/
def quoted (text : String) : String :=
  "\"" ++ String.ofList (text.toList.flatMap escape) ++ "\""

/-- An object with fields in this order, whose values are written already. -/
def object (fields : List (String × String)) : String :=
  "\x7b" ++ ",".intercalate (fields.map fun field => quoted field.1 ++ ":" ++ field.2) ++ "\x7d"

end Json

/-- The object of a capture, with its fields in the order of their names. -/
def captureObject (c : CaptureRecord) : String :=
  Json.object [
    ("capture", Json.quoted c.capture),
    ("column", toString c.column),
    ("end_byte", toString c.endByte),
    ("kind", Json.quoted c.kind),
    ("path", Json.quoted c.path),
    ("pattern", toString c.pattern),
    ("row", toString c.row),
    ("start_byte", toString c.startByte),
    ("text", Json.quoted c.text)]

/-! ### The program -/

/-- The surroundings of the program. -/
structure Environment where
  /-- The files, with the current directory as their home. -/
  files : FileSystem
  /-- The log filter of the environment. -/
  logFilter : Option String

/-- The log filter unless one is set. -/
def defaultLogFilter : String := "warn"

/-- Refuses a log filter that is none. -/
def checkLogFilter (filter : String) : Except Failure Unit :=
  if LogFilter.isValid filter then .ok ()
  else .error ⟨s!"invalid log filter '{filter}'", ["invalid filter directive"]⟩

/-- The configuration in a file, or in the current directory. -/
def loadConfig (files : FileSystem) (path : Option Path) : Except Failure Config :=
  let result :=
    match path with
    | some p => Config.loadFile files p
    | none => Config.discover files files.home
  result.mapError fun e => ⟨e.message, [e.cause]⟩

/-- The session and the cache that the options and the configuration make. -/
def Session.establish {dialect : Regex.Dialect} {hash : Bytes → UInt64} (env : Environment)
    (i : Invocation) (cache : RegexCache dialect hash) :
    Except Failure (Session × RegexCache dialect hash) := do
  checkLogFilter ((i.log.or env.logFilter).getD defaultLogFilter)
  let config ← loadConfig env.files i.config
  let ofRegistryError (e : RegistryError) : Failure := ⟨e.message, []⟩
  let registry ← Registry.withBundled.mapError ofRegistryError
  match config.apply registry cache with
  | (.error e, _, _) => throw (ofRegistryError e)
  | (.ok (), registry, cache) =>
    return (⟨registry, (i.timeout.map .ofMillis).or config.limit, env.files⟩, cache)

/-- The text of a query. -/
def Session.readQuery (s : Session) : QuerySource → Except Failure Bytes
  | .inline text => .ok (.ofText text)
  | .file p =>
    match s.files.readText p with
    | .error e => .error ⟨s!"failed to read query from {p.text}", [e.message]⟩
    | .ok text => .ok (.ofText text)

/-- Runs a command in a session. -/
def runAction {σ : Type} {dialect : Regex.Dialect} {hash : Bytes → UInt64} (engine : Engine σ)
    (session : Session) (cache : RegexCache dialect hash) :
    Action → StateM σ (Output × Option Failure)
  | .languages => pure (⟨languageLines session.registry, []⟩, none)
  | .parse paths language => runParse engine session paths language
  | .query paths source language asJson =>
    match session.readQuery source with
    | .error f => pure ({}, some f)
    | .ok query =>
      let format := if asJson then .record captureObject else .text
      runQuery engine session cache paths query language format
  | .markdown file => runMarkdown engine session cache file
  | .reparse file start stop insert language =>
    runReparse engine session file start stop insert language

/-- The version. -/
def versionText : String := "canopy 0.1.0\n"

/-- How the program is used. -/
def usageText : String :=
  "Parse, query and compose tree-sitter syntax trees\n\n" ++
  "Usage: canopy [OPTIONS] <COMMAND>\n\n" ++
  "Commands:\n" ++
  "  languages  List registered grammars and the extensions they claim\n" ++
  "  parse      Print the syntax tree of each file as an S-expression\n" ++
  "  query      Run a pattern query and print the captures of accepted matches\n" ++
  "  markdown   Print a Markdown document's block tree with its inline trees\n" ++
  "  reparse    Replace a byte range, reparse incrementally and show what changed\n" ++
  "  help       Print this message or the help of the given subcommand(s)\n\n" ++
  "Options:\n" ++
  "      --config <CONFIG>          Config file (defaults to ./canopy.toml when present)\n" ++
  "      --timeout-ms <TIMEOUT_MS>  Time budget per parse in milliseconds " ++
    "(overrides the config file)\n" ++
  "      --log <LOG>                Log filter such as `canopy=debug` " ++
    "(falls back to CANOPY_LOG, then `warn`)\n" ++
  "  -h, --help                     Print help\n" ++
  "  -V, --version                  Print version\n"

/-- What the program does for its arguments. -/
def run {σ : Type} {dialect : Regex.Dialect} {hash : Bytes → UInt64} (engine : Engine σ)
    (cache : RegexCache dialect hash) (env : Environment) (arguments : List String) :
    StateM σ Outcome :=
  match Request.ofArguments arguments with
  | .error e => pure ⟨2, "", s!"error: {e.message}\n"⟩
  | .ok .version => pure ⟨0, versionText, ""⟩
  | .ok .help => pure ⟨0, usageText, ""⟩
  | .ok (.run invocation) =>
    match Session.establish env invocation cache with
    | .error f => pure (.of {} (some f))
    | .ok (session, cache) => do
      let (output, failure) ← runAction engine session cache invocation.action
      return .of output failure

end SyntaxForest.Command
