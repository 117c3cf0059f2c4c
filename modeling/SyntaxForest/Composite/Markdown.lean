import SyntaxForest.Composite.Composer
import SyntaxForest.Grammar.Bundled

/-!
# Markdown

A Markdown document is a tree of blocks with one tree of inline content for each block that holds
text.
-/

namespace SyntaxForest

/-- A composer for Markdown documents. -/
structure MarkdownParser where
  /-- The composer. -/
  composer : Composer

namespace MarkdownParser

/-- The query that finds the blocks with inline content. -/
def inlineAnchor : Bytes := .ofText "(inline) @inline"

/-- The parser of Markdown documents. -/
def create {σ : Type} {dialect : Regex.Dialect} {hash : Bytes → UInt64} (engine : Engine σ)
    (cache : RegexCache dialect hash) :
    StateM σ (Except ComposeError MarkdownParser × RegexCache dialect hash) := do
  let (result, cache) ←
    Composer.create engine Grammar.markdown Grammar.markdownInline inlineAnchor cache
  return (result.map (⟨·⟩), cache)

/-- Sets the time that each parse may take. -/
def setOperationLimit (p : MarkdownParser) (limit : Option Duration) : MarkdownParser :=
  ⟨p.composer.setOperationLimit limit⟩

/-- Parses a document, from an older one with its edits if there is one. -/
def parse {σ : Type} (p : MarkdownParser) (engine : Engine σ) (source : Bytes)
    (previous : Option CompositeTree) (token : Option CancellationToken) :
    StateM σ (Except ComposeError CompositeTree × MarkdownParser) := do
  let (result, composer) ←
    match previous with
    | some previous => p.composer.rebuild engine previous source token
    | none => p.composer.build engine source token
  return (result, ⟨composer⟩)

end MarkdownParser

end SyntaxForest
