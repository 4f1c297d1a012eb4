import Unmark.Log.Record
import Unmark.PlainText.Options
import Unmark.Tree.Walk

/-
Module: Unmark.PlainText.Render
Layer: PlainText
Purpose: Rendering a tree as plain text. One traversal of the tree writes fragments: the literal text
  of text and code nodes, the marks around links and struck-through text, and separators between
  sibling blocks. The root is not rendered itself; of it only the kind counts, which decides whether
  its children are separated. A node of a foreign kind writes nothing, but its children do, and each
  foreign name is noted once. A node that lacks the field it would print stops the rendering.
Main exports: Fragment, RenderError, Tag.isBlockParent, Tag.isBlockRuled, renderEvent, render, Rendering
-/

namespace Unmark

namespace Tag

/-- The kinds whose children are separated when they are blocks. -/
def isBlockParent : Tag → Bool
  | root | paragraph | heading | list | listItem | blockquote | code | inlineCode | rawHtml
  | thematicBreak | table | tableRow => true
  | _ => false

/-- The kinds of blocks that are separated from their siblings. -/
def isBlockRuled : Tag → Bool
  | paragraph | heading | list | listItem | blockquote | code => true
  | _ => false

end Tag

namespace Kind

/-- Whether the children of a node of this kind are separated when they are blocks. -/
def isBlockParent : Kind → Bool
  | tag t => t.isBlockParent
  | foreign .. => false

/-- Whether a node of this kind is separated from its siblings. -/
def isBlockRuled : Kind → Bool
  | tag t => t.isBlockRuled
  | foreign .. => false

end Kind

namespace PlainText

/-- What a fragment of output is there for. -/
inductive Role where
  | literal | mark | separator
deriving DecidableEq, Repr, Inhabited

/-- A piece of output. -/
structure Fragment where
  role : Role
  text : String
deriving DecidableEq, Repr, Inhabited

/-- A node of kind `tag` without the field that it would print. -/
structure RenderError where
  tag : Tag
  field : String
deriving DecidableEq, Repr

/-- The wording of a render error. -/
def RenderError.message (e : RenderError) : String :=
  s!"{e.tag.name} node requires a string '{e.field}', got NoneType"

/-- What a rendering has written so far, and the foreign names it has met, both latest first. -/
structure Page where
  written : List Fragment := []
  foreignNames : List String := []
deriving DecidableEq, Repr, Inhabited

/-- Rendering steps: they write on a page, and what is written stays when a step fails. -/
abbrev Writing := ExceptT RenderError (StateM Page)

/-- Writes a fragment. -/
def write (role : Role) (text : String) : Writing Unit :=
  modify fun page => { page with written := ⟨role, text⟩ :: page.written }

/-- Notes a foreign name, unless it is noted already. -/
def note (name : String) : Writing Unit :=
  modify fun page =>
    if page.foreignNames.contains name then page
    else { page with foreignNames := name :: page.foreignNames }

/-- Writes a payload field that has to be there. -/
def writeField (role : Role) (tag : Tag) (field : String) : Option String → Writing Unit
  | some s => write role s
  | none => throw ⟨tag, field⟩

/-- Whether the sibling in front of position `index` is separated from its siblings by itself. -/
def previousIsBlock (parent : Node) (index : Nat) : Bool :=
  match parent.children[index - 1]? with
  | some n => n.kind.isBlockRuled
  | none => false

/-- Separates a block from its siblings. On leaving it, a separator is written when a sibling follows.
    On entering it, one is written only when the sibling before it is no block, since a block has
    written its own. -/
def separate (o : Options) (e : Event) : Writing Unit :=
  if e.parent.kind.isBlockParent then
    if e.entering then
      if 0 < e.index ∧ previousIsBlock e.parent e.index = false then write .separator o.blockSeparator
      else pure ()
    else if e.index + 1 < e.parent.children.length then write .separator o.blockSeparator
    else pure ()
  else pure ()

/-- What the renderer does on a report of the traversal. -/
def renderEvent (o : Options) (e : Event) : Writing Unit :=
  match e.node.kind with
  | .foreign name _ => if e.entering then note name else pure ()
  | .tag t =>
    match t with
    | .paragraph | .heading | .list | .listItem | .blockquote => separate o e
    | .code => do
      separate o e
      if e.entering then writeField .literal .code "value" e.node.payload.value else pure ()
    | .text =>
      if e.entering then writeField .literal .text "value" e.node.payload.value else pure ()
    | .inlineCode =>
      if e.entering then writeField .literal .inlineCode "value" e.node.payload.value else pure ()
    | .link =>
      if e.entering then write .mark "["
      else do
        write .mark "]"
        write .mark "("
        writeField .mark .link "url" e.node.payload.url
        write .mark ")"
    | .strikethrough =>
      if e.entering then do
        write .mark "("
        write .mark o.strikethroughPhrase
      else write .mark ")"
    | _ => pure ()

/-- What a rendering comes to: the text, or the defect that stopped it, and the log records in either
    case. -/
structure Rendering where
  text : Except RenderError String
  log : List Log.Record

/-- The text of fragments that are listed latest first. -/
def pageText (written : List Fragment) : String :=
  String.join (written.reverse.map Fragment.text)

/-- The record about a foreign kind. -/
def foreignRecord (o : Options) (name : String) : Log.Record :=
  Log.Source.rendering.record (if o.warnOnUnknownKinds then .warning else .debug)
    s!"No renderer for node kind '{name}'; rendering its children only"

/-- The page that the traversal of a tree leaves, and whether it came to its end. -/
def typeset (o : Options) (tree : Node) : Except RenderError Unit × Page :=
  (tree.walk (renderEvent o)).run.run {}

/-- The plain text of a tree. -/
def render (o : Options) (tree : Node) : Rendering :=
  let (outcome, page) := typeset o tree
  { text := outcome.map fun _ => pageText page.written
    log := page.foreignNames.reverse.map (foreignRecord o) }

end PlainText

end Unmark
