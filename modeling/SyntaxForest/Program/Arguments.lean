import SyntaxForest.Text.Reading
import SyntaxForest.Text.Path

/-!
# Command line arguments

The first operand names a command. Options may stand before or behind their operands, each at most
once; three of them are known everywhere, and count where they stand deepest. A value follows its
option as the next argument, unless it begins with a dash, or is attached to it. Two dashes end the
options.

## Main definitions

* `Invocation`, `Action`: what a command line asks for
* `Flag`, `Given`: the options, and those that were given
* `readLevel`: the options and operands of one level
* `Request.ofArguments`: what the arguments ask for
-/

namespace SyntaxForest.Command

/-- Where a query comes from. -/
inductive QuerySource where
  /-- The command line. -/
  | inline (text : String)
  /-- A file. -/
  | file (path : Path)
  deriving DecidableEq, Repr

/-- A command. -/
inductive Action where
  /-- List the grammars. -/
  | languages
  /-- Print the trees of files. -/
  | parse (paths : List Path) (language : Option String)
  /-- Print the captures of a query. -/
  | query (paths : List Path) (source : QuerySource) (language : Option String) (asJson : Bool)
  /-- Print the trees of a Markdown document. -/
  | markdown (file : Path)
  /-- Replace bytes of a file and print what changes. -/
  | reparse (file : Path) (start stop : Nat) (insert : String) (language : Option String)
  deriving DecidableEq, Repr

/-- A command with the options that are known everywhere. -/
structure Invocation where
  /-- The configuration file. -/
  config : Option Path
  /-- The time that a parse may take, in milliseconds. -/
  timeout : Option Nat
  /-- The log filter. -/
  log : Option String
  /-- What to do. -/
  action : Action
  deriving DecidableEq, Repr

/-- What a command line asks for. -/
inductive Request where
  /-- To run a command. -/
  | run (invocation : Invocation)
  /-- To show the version. -/
  | version
  /-- To explain the usage. -/
  | help
  deriving DecidableEq, Repr

/-- Why a command line is refused. -/
inductive UsageError where
  /-- No command is named. -/
  | missingCommand
  /-- An argument has no place. -/
  | unexpected (argument : String)
  /-- An option has no value. -/
  | missingValue (name : String)
  /-- A value does not suit its option. -/
  | invalidValue (value name : String)
  /-- An option is given twice. -/
  | repeated (name : String)
  /-- An argument is missing. -/
  | missingArgument (name : String)
  /-- Two options exclude each other. -/
  | conflict (first second : String)
  deriving DecidableEq, Repr

/-- The wording of a usage error. -/
def UsageError.message : UsageError → String
  | .missingCommand => "a command is required"
  | .unexpected argument => s!"unexpected argument '{argument}' found"
  | .missingValue name => s!"a value is required for '--{name}' but none was supplied"
  | .invalidValue value name => s!"invalid value '{value}' for '--{name}'"
  | .repeated name => s!"the argument '--{name}' cannot be used multiple times"
  | .missingArgument name => s!"the following required argument was not provided: {name}"
  | .conflict first second => s!"the argument '--{first}' cannot be used with '--{second}'"

/-! ### Options -/

/-- The options. -/
inductive Flag where
  | config | timeout | log | language | pattern | queryFile | json | start | stop | insert
  | version | help
  deriving DecidableEq, Repr

namespace Flag

/-- The long name. -/
def name : Flag → String
  | config => "config"
  | timeout => "timeout-ms"
  | log => "log"
  | language => "language"
  | pattern => "pattern"
  | queryFile => "query-file"
  | json => "json"
  | start => "start"
  | stop => "end"
  | insert => "insert"
  | version => "version"
  | help => "help"

/-- The short name. -/
def letter? : Flag → Option Char
  | language => some 'l'
  | pattern => some 'p'
  | queryFile => some 'f'
  | version => some 'V'
  | help => some 'h'
  | _ => none

/-- Whether a value belongs to the option. -/
def takesValue : Flag → Bool
  | json | version | help => false
  | _ => true

end Flag

/-- The number of 64 bits that a text spells, behind a plus sign if there is one. -/
def word64? (text : String) : Option Nat :=
  let digits :=
    match text.toList with
    | '+' :: rest => rest
    | all => all
  if digits ≠ [] ∧ digits.all Char.isDigit then
    let n := Numeral.value 10 digits
    if n < UInt64.size then some n else none
  else none

/-- Whether a value suits an option: paths are not empty, times are positive and offsets are
numbers. -/
def Flag.accepts (value : String) : Flag → Bool
  | config | queryFile => value ≠ ""
  | timeout => (word64? value).any (0 < ·)
  | start | stop => (word64? value).isSome
  | _ => true

/-- The options of a level that were given, with their values, and its operands in order. -/
structure Given where
  /-- The options with their values. -/
  options : List (Flag × String) := []
  /-- The operands. -/
  operands : List String := []
  deriving Repr

namespace Given

/-- The value of an option. -/
def value? (g : Given) (flag : Flag) : Option String := g.options.lookup flag

/-- Whether an option was given. -/
def has (g : Given) (flag : Flag) : Bool := (g.value? flag).isSome

/-- Adds an option with its value, which must suit it. -/
def add (g : Given) (flag : Flag) (value : String) : Except UsageError Given :=
  if g.has flag then .error (.repeated flag.name)
  else if flag.accepts value then .ok { g with options := g.options ++ [(flag, value)] }
  else .error (.invalidValue value flag.name)

end Given

/-- Where reading a level ends. -/
inductive LevelEnd where
  /-- At a request for the version or for help. -/
  | stopped (request : Request)
  /-- At the name of a command, with the arguments behind it. -/
  | command (given : Given) (name : String) (rest : List String)
  /-- At the end of the arguments. -/
  | done (given : Given)

/-- Whether an argument has the form of an option: a lone dash is an operand. -/
def isOption (argument : String) : Bool :=
  match argument.toList with
  | '-' :: _ :: _ => true
  | _ => false

/-- The request that an option makes at once. -/
def Flag.request? : Flag → Option Request
  | version => some .version
  | help => some .help
  | _ => none

/-- What an argument that is an option leaves to do. -/
inductive OptionRead where
  /-- A value is due. -/
  | awaiting (flag : Flag)
  /-- The option is complete. -/
  | complete (given : Given)
  /-- A request is to be answered at once. -/
  | request (r : Request)

/-- Reads an option that was found, with the value attached to it. -/
def readFlag (g : Given) (flag : Flag) (attached : Option String) : Except UsageError OptionRead :=
  match flag.takesValue, attached with
  | true, some value => (g.add flag value).map .complete
  | true, none => .ok (.awaiting flag)
  | false, some value => .error (.invalidValue value flag.name)
  | false, none =>
    match flag.request? with
    | some r => .ok (.request r)
    | none => (g.add flag "").map .complete

/-- Reads letters of short options in one argument: the first that takes a value takes the rest. -/
def readLetters (flags : List Flag) (g : Given) (argument : String) :
    List Char → Except UsageError OptionRead
  | [] => .ok (.complete g)
  | c :: rest =>
    match flags.find? (·.letter? = some c) with
    | none => .error (.unexpected argument)
    | some flag =>
      if flag.takesValue then
        let attached :=
          match rest with
          | [] => none
          | '=' :: value => some (String.ofList value)
          | value => some (String.ofList value)
        readFlag g flag attached
      else
        match readFlag g flag none with
        | .ok (.complete g) => readLetters flags g argument rest
        | result => result

/-- Reads an argument that has the form of an option. -/
def readOption (flags : List Flag) (g : Given) (argument : String) :
    Except UsageError OptionRead :=
  match argument.toList with
  | '-' :: '-' :: rest =>
    let name := String.ofList (rest.takeWhile (· ≠ '='))
    match flags.find? (·.name = name), rest.dropWhile (· ≠ '=') with
    | none, _ => .error (.unexpected argument)
    | some flag, [] => readFlag g flag none
    | some flag, _ :: value => readFlag g flag (some (String.ofList value))
  | letters => readLetters flags g argument (letters.drop 1)

/-- Reads the arguments of a level with these options, given the option whose value is due. On the
first level the first operand must name a command. -/
def readLevel (flags : List Flag) (isFirst : Bool) (g : Given) (awaiting : Option Flag) :
    List String → Except UsageError LevelEnd
  | [] =>
    match awaiting with
    | some flag => .error (.missingValue flag.name)
    | none => .ok (.done g)
  | argument :: rest =>
    match awaiting with
    | some flag =>
      if isOption argument then .error (.missingValue flag.name)
      else
        match g.add flag argument with
        | .error e => .error e
        | .ok g => readLevel flags isFirst g none rest
    | none =>
      if argument = "--" then
        if isFirst then
          match rest with
          | [] => .ok (.done g)
          | operand :: _ => .error (.unexpected operand)
        else .ok (.done { g with operands := g.operands ++ rest })
      else if isOption argument then
        match readOption flags g argument with
        | .error e => .error e
        | .ok (.request r) => .ok (.stopped r)
        | .ok (.awaiting flag) => readLevel flags isFirst g (some flag) rest
        | .ok (.complete g) => readLevel flags isFirst g none rest
      else if isFirst then .ok (.command g argument rest)
      else readLevel flags isFirst { g with operands := g.operands ++ [argument] } none rest

/-! ### Commands -/

/-- The options that are known everywhere. -/
def Flag.everywhere : List Flag := [.config, .timeout, .log, .help]

/-- The options of a command of this name; none for a name without a command. -/
def flagsOf? (name : String) : Option (List Flag) :=
  match name with
  | "languages" => some []
  | "parse" => some [.language]
  | "query" => some [.pattern, .queryFile, .language, .json]
  | "markdown" => some []
  | "reparse" => some [.start, .stop, .insert, .language]
  | _ => none

/-- The only operand of a level. -/
def onlyOperand (g : Given) (name : String) : Except UsageError Path :=
  match g.operands with
  | [] => .error (.missingArgument name)
  | [""] => .error (.invalidValue "" name)
  | [p] => .ok ⟨p⟩
  | _ :: second :: _ => .error (.unexpected second)

/-- The operands of a level as paths, of which there is one at least. -/
def somePaths (g : Given) : Except UsageError (List Path) :=
  if g.operands = [] then .error (.missingArgument "<PATHS>...")
  else if g.operands.contains "" then .error (.invalidValue "" "<PATHS>...")
  else .ok (g.operands.map (⟨·⟩))

/-- The source of a query: the command line or a file, and not both. -/
def querySource (g : Given) : Except UsageError QuerySource :=
  match g.value? .pattern, g.value? .queryFile with
  | some _, some _ => .error (.conflict "pattern" "query-file")
  | some text, none => .ok (.inline text)
  | none, some path => .ok (.file ⟨path⟩)
  | none, none => .error (.missingArgument "--pattern <PATTERN>")

/-- The offset that an option gives. -/
def offset (g : Given) (flag : Flag) : Except UsageError Nat :=
  match (g.value? flag).bind word64? with
  | some n => .ok n
  | none => .error (.missingArgument s!"--{flag.name}")

/-- The command of a name with what was given for it. -/
def Action.ofGiven (name : String) (g : Given) : Except UsageError Action := do
  match name with
  | "languages" =>
    match g.operands with
    | [] => return .languages
    | operand :: _ => throw (.unexpected operand)
  | "parse" => return .parse (← somePaths g) (g.value? .language)
  | "query" =>
    return .query (← somePaths g) (← querySource g) (g.value? .language) (g.has .json)
  | "markdown" => return .markdown (← onlyOperand g "<FILE>")
  | "reparse" =>
    return .reparse (← onlyOperand g "<FILE>") (← offset g .start) (← offset g .stop)
      ((g.value? .insert).getD "") (g.value? .language)
  | other => throw (.unexpected other)

/-- A command with its options. Of an option known everywhere the deeper one counts. -/
def Invocation.ofGiven (name : String) (outer inner : Given) : Except UsageError Invocation := do
  let value? (flag : Flag) : Option String := (inner.value? flag).or (outer.value? flag)
  let action ← Action.ofGiven name inner
  return ⟨(value? .config).map (⟨·⟩), (value? .timeout).bind word64?, value? .log, action⟩

/-- What the arguments ask for when they begin with the word for help. -/
def helpRequest : List String → Except UsageError Request
  | [] => .ok .help
  | [name] =>
    if (flagsOf? name).isSome ∨ name = "help" then .ok .help else .error (.unexpected name)
  | _ :: name :: _ => .error (.unexpected name)

/-- What the arguments ask for. -/
def Request.ofArguments (arguments : List String) : Except UsageError Request := do
  match ← readLevel (.version :: Flag.everywhere) true {} none arguments with
  | .stopped request => return request
  | .done _ => throw .missingCommand
  | .command outer name rest =>
    if name = "help" then helpRequest rest
    else
      match flagsOf? name with
      | none => throw (.unexpected name)
      | some flags =>
        match ← readLevel (flags ++ Flag.everywhere) false {} none rest with
        | .stopped request => return request
        | .command _ other _ => throw (.unexpected other)
        | .done inner => return .run (← Invocation.ofGiven name outer inner)

end SyntaxForest.Command
