import Unmark.Markdown.FrontMatter
import Unmark.Markdown.Grammar
import Unmark.Tree.Build

/-
Module: Unmark.Markdown.Document
Layer: Markdown
Purpose: From a Markdown text to a document tree. The front matter goes into the metadata of the root, the
  tokens of the rest become its children, and definitions of link references may follow as nodes.
Main exports: Parsed, parse
-/

namespace Unmark.Markdown

/-- The tree of a text, and what was noted on the way. -/
structure Parsed where
  tree : Node
  log : List Log.Record

/-- A text with its front matter taken off, if the options say so. -/
def withoutFrontMatter (o : Options) (cs : List Char) : Except Yaml.Fault FrontMatter.Extracted :=
  if o.frontMatter then FrontMatter.extract cs else .ok ⟨none, cs, []⟩

/-- The node that front matter leaves behind, if the options say so. -/
def frontMatterNodes (o : Options) : Option FrontMatter → List Node
  | some f => if o.frontMatterNode then [Build.frontMatter f.raw f.data] else []
  | none => []

/-- The metadata of the root. -/
def rootMetadata : Option FrontMatter → Fields
  | some f => [("frontmatter", f.data)]
  | none => []

/-- The nodes of the definitions of a document, if the options say so. -/
def definitionNodes (o : Options) (env : Environment) : List Node :=
  if o.definitionNodes then definitions env.links else []

/-- The tree of a Markdown text. -/
def parse (o : Options) (text : String) : Except Yaml.Fault Parsed := do
  let extracted ← withoutFrontMatter o text.toList
  let doc := tokenize o extracted.rest
  return {
    tree := Build.root
      (frontMatterNodes o extracted.found ++ blocks doc.tokens ++ definitionNodes o doc.env)
      (rootMetadata extracted.found)
    log := extracted.log ++ blockDrops doc.tokens }

end Unmark.Markdown
