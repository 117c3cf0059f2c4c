import SyntaxForest.Config.Settings
import SyntaxForest.Files
import SyntaxForest.Program.Toml.Document

/-!
# Configuration files

A configuration is written as a TOML document with up to three tables. Unknown keys are refused. A
table of settings may also be written as an array, with its settings in their order. A configuration
is read from a text or from a file, and counts only when nothing is wrong with it. In a directory it
is looked for under one name; without such a file the defaults hold.

## Main definitions

* `ConfigDefect`: why a document is no configuration
* `Config.ofToml`: the settings of a document
* `ConfigError`: why there is no configuration
* `Config.loadText`, `Config.loadFile`, `Config.discover`: where a configuration comes from
-/

namespace SyntaxForest

/-- Why a document is no configuration. -/
inductive ConfigDefect where
  /-- The text is no document. -/
  | notToml (reason : Toml.Error)
  /-- A key is unknown where it stands. -/
  | unknownField (name : String)
  /-- A value is of the wrong type or does not fit. -/
  | wrongType (expected : String)
  deriving DecidableEq, Repr

/-- The wording of a defect. -/
def ConfigDefect.message : ConfigDefect → String
  | .notToml reason => s!"TOML parse error: {reason.message}\n"
  | .unknownField name => s!"unknown field `{name}`\n"
  | .wrongType expected => s!"invalid type: expected {expected}\n"

/-- Why there is no configuration. The path is that of the file, if there is one. -/
inductive ConfigError where
  /-- The file cannot be read. -/
  | unreadable (path : Path) (reason : FileError)
  /-- The text is no configuration. -/
  | malformed (path : Option Path) (defect : ConfigDefect)
  /-- Something is wrong with the settings. -/
  | invalid (path : Option Path) (issues : List ValidationIssue)
  deriving DecidableEq, Repr

namespace ConfigError

/-- Where a configuration comes from, as a message shows it. -/
def origin : Option Path → String
  | none => ""
  | some p => s!" in {p.text}"

/-- The wording of what is behind an error. -/
def cause : ConfigError → String
  | .unreadable _ reason => reason.message
  | .malformed _ defect => defect.message
  | .invalid _ issues => "\n".intercalate (issues.map (·.message))

/-- The wording of an error. -/
def message (e : ConfigError) : String :=
  match e with
  | .unreadable p _ => s!"cannot read {p.text}: {e.cause}"
  | .malformed p _ => s!"malformed config{origin p}: {e.cause}"
  | .invalid p _ => s!"invalid config{origin p}: {e.cause}"

/-- The file that the configuration comes from. -/
def path? : ConfigError → Option Path
  | .unreadable p _ => some p
  | .malformed p _ | .invalid p _ => p

/-- What is wrong with the settings. -/
def issues : ConfigError → List ValidationIssue
  | .invalid _ issues => issues
  | .unreadable _ _ | .malformed _ _ => []

end ConfigError

namespace Config

/-- The key under which a date is seen where a table is due. -/
def datetimeKey : String := "$__toml_private_datetime"

/-- The fields of a value where a table is due: those of a table, or the one that a date has. -/
def entries? : Toml.Value → Option (List (String × Toml.Value))
  | .table entries => some entries
  | .datetime written => some [(datetimeKey, .text written)]
  | _ => none

/-- The values of the named settings of a group, none standing for one that is not set. -/
def settings (names : List String) (group : Toml.Value) :
    Except ConfigDefect (List (Option Toml.Value)) :=
  match group, entries? group with
  | .array items, _ => .ok (names.zipIdx.map fun (_, i) => items[i]?)
  | _, none => .error (.wrongType "a table")
  | _, some entries =>
    match entries.find? fun entry => !names.contains entry.1 with
    | some (name, _) => .error (.unknownField name)
    | none => .ok (names.map fun name => entries.lookup name)

/-- A number that is not negative. -/
def toNumber : Toml.Value → Except ConfigDefect Nat
  | .integer n => if 0 ≤ n then .ok n.toNat else .error (.wrongType "an unsigned integer")
  | _ => .error (.wrongType "an unsigned integer")

/-- A text. -/
def toText : Toml.Value → Except ConfigDefect String
  | .text s => .ok s
  | _ => .error (.wrongType "a string")

/-- Grammar names under extensions. -/
def toExtensions (v : Toml.Value) : Except ConfigDefect ExtensionMap :=
  match entries? v with
  | none => .error (.wrongType "a map")
  | some entries =>
    (entries.mapM fun entry => (toText entry.2).map (entry.1, ·)).map ExtensionMap.ofList

/-- The only setting of a group that has one, if it is set. -/
def setting {α : Type} (name : String) (read : Toml.Value → Except ConfigDefect α) :
    Option Toml.Value → Except ConfigDefect (Option α)
  | none => .ok none
  | some group => do
    match ← settings [name] group with
    | [some v] => return some (← read v)
    | _ => return none

/-- The settings that a document stands for. -/
def ofToml (document : Toml.Value) : Except ConfigDefect Config := do
  match ← settings ["parser", "query", "languages"] document with
  | [parser, query, languages] =>
    let operationLimit ← setting "operation_limit_ms" toNumber parser
    let cacheCapacity ← setting "regex_cache_capacity" toNumber query
    let extensions ← setting "extensions" toExtensions languages
    return { operationLimit, cacheCapacity, extensions := extensions.getD .empty }
  | _ => return {}

/-- The settings that a text stands for. -/
def parse (text : String) : Except ConfigDefect Config :=
  match Toml.parse text.toList with
  | .error e => .error (.notToml e)
  | .ok document => ofToml document

/-- The name under which a directory holds a configuration. -/
def fileName : Path := ⟨"canopy.toml"⟩

/-- The configuration that a text from a file stands for. -/
def loadFrom (path : Option Path) (text : String) : Except ConfigError Config :=
  match parse text with
  | .error defect => .error (.malformed path defect)
  | .ok config => if config.issues = [] then .ok config else .error (.invalid path config.issues)

/-- The configuration that a text stands for. -/
def loadText (text : String) : Except ConfigError Config := loadFrom none text

/-- The configuration in a file. -/
def loadFile (fs : FileSystem) (p : Path) : Except ConfigError Config :=
  match fs.readText p with
  | .error e => .error (.unreadable p e)
  | .ok text => loadFrom (some p) text

/-- The configuration of a directory: the defaults when it holds none. -/
def discover (fs : FileSystem) (directory : Path) : Except ConfigError Config :=
  let p := directory.join fileName
  if fs.isFile p then loadFile fs p else .ok {}

end Config

end SyntaxForest
