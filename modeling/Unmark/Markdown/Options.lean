import Unmark.Data
import Unmark.OptionError

/-
Module: Unmark.Markdown.Options
Layer: Markdown
Purpose: The options of reading Markdown: which extensions of the grammar are on, and whether front matter
  and link reference definitions leave nodes behind.
Main exports: Markdown.Options, Options.update, Options.fields
-/

namespace Unmark.Markdown

/-- The options of reading Markdown. -/
structure Options where
  strikethrough : Bool := true
  tables : Bool := true
  footnotes : Bool := true
  taskLists : Bool := true
  frontMatter : Bool := true
  frontMatterNode : Bool := false
  definitionNodes : Bool := false
deriving DecidableEq, Repr, Inhabited

namespace Options

/-- The name of these options in messages. -/
def owner : String := "MarkdownParserOptions"

/-- The options as named truth values. -/
def flags (o : Options) : List (String × Bool) :=
  [("parse_strikethrough", o.strikethrough), ("parse_tables", o.tables),
   ("parse_footnotes", o.footnotes), ("parse_task_lists", o.taskLists),
   ("parse_frontmatter", o.frontMatter), ("emit_frontmatter_node", o.frontMatterNode),
   ("emit_definition_nodes", o.definitionNodes)]

/-- The names of the options. -/
def names : List String := (flags {}).map Prod.fst

/-- The options as named values. -/
def fields (o : Options) : Fields := o.flags.map fun (name, b) => (name, .bool b)

/-- Options with some values replaced. The first name that is unknown is refused. -/
def update (o : Options) (given : Fields) : Except OptionError Options :=
  match given.find? fun f => !names.contains f.1 with
  | some (name, _) => .error (.unknownName owner name)
  | none =>
    let value (name : String) (before : Bool) : Bool :=
      match given.get? name with
      | some d => d.truthy
      | none => before
    .ok {
      strikethrough := value "parse_strikethrough" o.strikethrough
      tables := value "parse_tables" o.tables
      footnotes := value "parse_footnotes" o.footnotes
      taskLists := value "parse_task_lists" o.taskLists
      frontMatter := value "parse_frontmatter" o.frontMatter
      frontMatterNode := value "emit_frontmatter_node" o.frontMatterNode
      definitionNodes := value "emit_definition_nodes" o.definitionNodes }

/-- Options from named values; what is not named has its default. -/
def ofFields (given : Fields) : Except OptionError Options := update {} given

end Options

end Unmark.Markdown
