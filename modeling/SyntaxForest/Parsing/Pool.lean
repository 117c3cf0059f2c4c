import SyntaxForest.Parsing.Parser

/-!
# A pool of parsers

Parsers are kept from one text to the next, one for each grammar name. The first grammar of a name
that there is a parser for decides which parser the name stands for, until the pool is emptied. A
grammar that there is none for leaves the pool as it was.
-/

namespace SyntaxForest

/-- Parsers under the names of their grammars. -/
structure ParserPool where
  /-- The parsers, in the order of their first use. -/
  parsers : List (String × SyntaxParser) := []
  deriving Inhabited

namespace ParserPool

/-- The parser of a grammar name. -/
def find? (pool : ParserPool) (name : String) : Option SyntaxParser := pool.parsers.lookup name

/-- Keeps a parser under a name, in place of the one that was kept there. -/
def put (pool : ParserPool) (name : String) (parser : SyntaxParser) : ParserPool :=
  match pool.find? name with
  | some _ => ⟨pool.parsers.map fun kept => if kept.1 = name then (name, parser) else kept⟩
  | none => ⟨pool.parsers ++ [(name, parser)]⟩

/-- The parser for a grammar: the one kept under its name, or a new one. -/
def parserFor {σ : Type} (pool : ParserPool) (engine : Engine σ) (grammar : Grammar) :
    Except ParseError SyntaxParser :=
  match pool.find? grammar.name with
  | some parser => .ok parser
  | none => SyntaxParser.ofGrammar engine grammar

/-- Lets an action use the parser for a grammar, and keeps the parser that it leaves. Nothing is
done and nothing is kept when there is no such parser. -/
def withParser {σ : Type} {m : Type → Type} [Monad m] {α : Type} (pool : ParserPool)
    (engine : Engine σ) (grammar : Grammar) (action : SyntaxParser → m (α × SyntaxParser)) :
    m (Except ParseError α × ParserPool) :=
  match pool.parserFor engine grammar with
  | .error e => pure (.error e, pool)
  | .ok parser => do
    let (result, parser) ← action parser
    return (.ok result, pool.put grammar.name parser)

/-- Parses a text with the parser for a grammar, within a limit. -/
def parseSource {σ : Type} (pool : ParserPool) (engine : Engine σ) (grammar : Grammar)
    (source : Bytes) (limit : Option Duration) (token : Option CancellationToken) :
    StateM σ (Except ParseError SyntaxTree × ParserPool) := do
  let (result, pool) ← pool.withParser engine grammar fun parser =>
    (parser.setOperationLimit limit).parse engine source none token
  return (result.bind id, pool)

/-- The pool without parsers. -/
def clear (_ : ParserPool) : ParserPool := {}

end ParserPool

end SyntaxForest
