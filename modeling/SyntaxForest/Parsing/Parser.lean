import SyntaxForest.Engine

/-!
# Parsers

The engine's parser is a machine with memory: it keeps the ranges that it was last given, and a
parse that was halted, which it would take up again. A syntax parser drives that machine so that no
request shows what went before: it sets the ranges ahead of every parse and gives a halted parse up
at once.

The engine only says that there is no tree. Why is found from what it saw when it asked whether to
go on: the caller's flag counts before the clock, and a flag set by the time of the answer counts,
too.

## Main definitions

* `EngineParser`: the engine's machine
* `SyntaxParser`: a grammar, a time limit and the machine
* `SyntaxParser.ofGrammar`: the parser of a grammar, which there is none of when the engine cannot
  load its language
* `SyntaxParser.parse`, `SyntaxParser.parseRanges`: the whole text, or parts of it
* `haltError`: why a halted parse was halted
-/

namespace SyntaxForest

/-- The engine's parser, between two parses. -/
structure EngineParser where
  /-- The language. -/
  language : Option Language := none
  /-- The ranges to parse; none stands for the whole text. -/
  ranges : List Range := []
  /-- A halted parse that was not given up. -/
  suspended : Option (Reader × List Range) := none
  /-- Whether the engine tells what it does. -/
  isLogging : Bool := false

namespace EngineParser

/-- Sets the language, unless the engine cannot load it. -/
def setLanguage {σ : Type} (p : EngineParser) (engine : Engine σ) (language : Language) :
    Except String EngineParser :=
  match engine.incompatibility? language with
  | some reason => .error reason
  | none => .ok { p with language := some language }

/-- Sets the ranges to parse. Ranges out of order are refused, with the index of the first that is,
and leave the ranges as they were. -/
def setRanges (p : EngineParser) (ranges : List Range) : Except Nat EngineParser :=
  match firstDisorder? 0 0 ranges with
  | some index => .error index
  | none => .ok { p with ranges }

/-- Gives a halted parse up. -/
def reset (p : EngineParser) : EngineParser := { p with suspended := none }

/-- Parses in a language. A parse that gives no tree stays behind, halted. -/
def parse {σ : Type} (p : EngineParser) (engine : Engine σ) (language : Language) (read : Reader)
    (previous : Option SyntaxTree) (token : Option CancellationToken) (limit : Option Duration) :
    StateM σ (ParseAnswer × EngineParser) := do
  let answer ← engine.parse ⟨language, read, p.ranges, previous, p.suspended, token, limit⟩
  let suspended := if answer.tree.isSome then none else some (read, p.ranges)
  return (answer, { p with suspended })

end EngineParser

/-- Whether a parse goes no further after a poll: a flag was given and is set, or a limit was given
and that much time is spent. -/
def Poll.halts (token : Option CancellationToken) (limit : Option Duration) (poll : Poll) : Bool :=
  (token.isSome && poll.isCancelled) || limit.any (· ≤ poll.elapsed)

/-- Why a parse without a tree was halted. -/
def haltError (token : Option CancellationToken) (limit : Option Duration) (answer : ParseAnswer) :
    ParseError :=
  let sawFlag := (answer.polls.find? (·.halts token limit)).any (·.isCancelled)
  if token.isSome && (sawFlag || answer.isCancelledAfter) then .cancelled
  else .operationLimitExceeded (limit.getD .zero)

/-- A parser of one grammar. -/
structure SyntaxParser where
  /-- The engine's parser. -/
  inner : EngineParser
  /-- The grammar. -/
  grammar : Option Grammar
  /-- The time that one parse may take. -/
  operationLimit : Option Duration := none

namespace SyntaxParser

/-- A parser of a grammar, without a limit. There is none when the engine cannot load the grammar's
language. -/
def ofGrammar {σ : Type} (engine : Engine σ) (grammar : Grammar) :
    Except ParseError SyntaxParser :=
  match ({} : EngineParser).setLanguage engine grammar.language with
  | .error reason => .error (.incompatibleGrammar grammar.name reason)
  | .ok inner => .ok { inner, grammar := some grammar }

/-- A parser without a grammar, which refuses every text. -/
def unconfigured : SyntaxParser := { inner := {}, grammar := none }

/-- Sets the time that one parse may take. -/
def setOperationLimit (p : SyntaxParser) (limit : Option Duration) : SyntaxParser :=
  { p with operationLimit := limit }

/-- Makes the engine tell what it does, or stops it. -/
def setEngineLogging (p : SyntaxParser) (on : Bool) : SyntaxParser :=
  { p with inner := { p.inner with isLogging := on } }

/-- Whether the engine tells what it does. -/
def engineLogging (p : SyntaxParser) : Bool := p.inner.isLogging

/-- Parses in the ranges that are set. A halted parse is given up. -/
def run {σ : Type} (p : SyntaxParser) (engine : Engine σ) (read : Reader)
    (previous : Option SyntaxTree) (token : Option CancellationToken) :
    StateM σ (Except ParseError SyntaxTree × SyntaxParser) :=
  match p.grammar, p.inner.language with
  | some _, some language => do
    let (answer, inner) ← p.inner.parse engine language read previous token p.operationLimit
    match answer.tree with
    | some tree => return (.ok tree, { p with inner })
    | none =>
      return (.error (haltError token p.operationLimit answer), { p with inner := inner.reset })
  | _, _ => pure (.error .noGrammar, p)

/-- Sets the ranges and parses in them. -/
def runIn {σ : Type} (p : SyntaxParser) (engine : Engine σ) (ranges : List Range) (read : Reader)
    (previous : Option SyntaxTree) (token : Option CancellationToken) :
    StateM σ (Except ParseError SyntaxTree × SyntaxParser) :=
  match p.inner.setRanges ranges with
  | .error index => pure (.error (.invalidRanges index), p)
  | .ok inner => { p with inner }.run engine read previous token

/-- Parses a text that is read in pieces. -/
def parseWith {σ : Type} (p : SyntaxParser) (engine : Engine σ) (read : Reader)
    (previous : Option SyntaxTree) (token : Option CancellationToken) :
    StateM σ (Except ParseError SyntaxTree × SyntaxParser) :=
  p.runIn engine [] read previous token

/-- Parses a text. Unchanged parts of an older tree, edited to fit, are used again. -/
def parse {σ : Type} (p : SyntaxParser) (engine : Engine σ) (source : Bytes)
    (previous : Option SyntaxTree) (token : Option CancellationToken) :
    StateM σ (Except ParseError SyntaxTree × SyntaxParser) :=
  p.parseWith engine (.ofBytes source) previous token

/-- Parses the parts of a text that lie in the ranges. -/
def parseRanges {σ : Type} (p : SyntaxParser) (engine : Engine σ) (source : Bytes)
    (previous : Option SyntaxTree) (ranges : List Range) (token : Option CancellationToken) :
    StateM σ (Except ParseError SyntaxTree × SyntaxParser) :=
  p.runIn engine ranges (.ofBytes source) previous token

end SyntaxParser

end SyntaxForest
