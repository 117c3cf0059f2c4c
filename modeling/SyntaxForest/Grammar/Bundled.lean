import SyntaxForest.Grammar.Basic

/-!
# The bundled grammars

The grammars that every registry with the bundled ones holds. The inline grammar of Markdown claims
no extension, since it only makes sense over ranges cut out of a block tree.
-/

namespace SyntaxForest.Grammar

/-- A bundled grammar, under the engine's own name of its language. -/
def bundledAs (name : String) (extensions : List String) : Grammar := ⟨name, ⟨name⟩, extensions⟩

/-- The block structure of a Markdown document. -/
def markdown : Grammar := bundledAs "markdown" ["md", "markdown"]

/-- The inline content of Markdown blocks. -/
def markdownInline : Grammar := bundledAs "markdown_inline" []

/-- Every bundled grammar. -/
def bundled : List Grammar := [
  bundledAs "css" ["css"],
  bundledAs "go" ["go"],
  bundledAs "rust" ["rs"],
  bundledAs "python" ["py", "pyi"],
  bundledAs "typescript" ["ts", "mts", "cts"],
  bundledAs "tsx" ["tsx"],
  bundledAs "bash" ["sh", "bash"],
  bundledAs "c" ["c", "h"],
  bundledAs "cpp" ["cpp", "cc", "cxx", "hpp", "hh"],
  bundledAs "html" ["html", "htm"],
  bundledAs "java" ["java"],
  bundledAs "javascript" ["js", "mjs", "cjs", "jsx"],
  bundledAs "ruby" ["rb"],
  markdown,
  markdownInline]

end SyntaxForest.Grammar
