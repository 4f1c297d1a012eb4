/-
Module: Unmark.Tree.Kind
Layer: Tree
Purpose: The kinds of document nodes. Twenty-six kinds are known and form the closed type `Tag`; any
  other name is carried along as a foreign kind, so that trees from other producers can still be
  rendered. A foreign name is never the name of a tag, which the type itself records: every node of a
  known kind has one representation. A tag has two spellings, the library's own and the one of the
  common Markdown syntax tree (mdast), and reading a serialized tree accepts both.
Main exports: Tag, Tag.name, Tag.mdastName, Kind, Kind.ofName, Kind.resolve, Kind.name
-/

namespace Unmark

/-- The kinds of nodes that the library knows. -/
inductive Tag where
  | root | paragraph | heading | text | emphasis | strong | strikethrough | link | image
  | inlineCode | code | lineBreak | linkReference | imageReference | definition | rawHtml
  | list | listItem | blockquote | thematicBreak | table | tableRow | tableCell
  | frontMatter | footnoteDefinition | footnoteReference
deriving DecidableEq, Repr, Inhabited

namespace Tag

/-- Every tag, in order of declaration. -/
def all : List Tag :=
  [root, paragraph, heading, text, emphasis, strong, strikethrough, link, image,
   inlineCode, code, lineBreak, linkReference, imageReference, definition, rawHtml,
   list, listItem, blockquote, thematicBreak, table, tableRow, tableCell,
   frontMatter, footnoteDefinition, footnoteReference]

/-- The library's own spelling of a tag. -/
def name : Tag → String
  | root => "root"
  | paragraph => "paragraph"
  | heading => "heading"
  | text => "text"
  | emphasis => "emphasis"
  | strong => "strong"
  | strikethrough => "strikethrough"
  | link => "link"
  | image => "image"
  | inlineCode => "inline_code"
  | code => "code"
  | lineBreak => "line_break"
  | linkReference => "link_reference"
  | imageReference => "image_reference"
  | definition => "definition"
  | rawHtml => "raw_html"
  | list => "list"
  | listItem => "list_item"
  | blockquote => "blockquote"
  | thematicBreak => "thematic_break"
  | table => "table"
  | tableRow => "table_row"
  | tableCell => "table_cell"
  | frontMatter => "front_matter"
  | footnoteDefinition => "footnote_definition"
  | footnoteReference => "footnote_reference"

/-- The spelling of a tag in a Markdown syntax tree. -/
def mdastName : Tag → String
  | root => "root"
  | paragraph => "paragraph"
  | heading => "heading"
  | text => "text"
  | emphasis => "emphasis"
  | strong => "strong"
  | strikethrough => "delete"
  | link => "link"
  | image => "image"
  | inlineCode => "inlineCode"
  | code => "code"
  | lineBreak => "break"
  | linkReference => "linkReference"
  | imageReference => "imageReference"
  | definition => "definition"
  | rawHtml => "html"
  | list => "list"
  | listItem => "listItem"
  | blockquote => "blockquote"
  | thematicBreak => "thematicBreak"
  | table => "table"
  | tableRow => "tableRow"
  | tableCell => "tableCell"
  | frontMatter => "yaml"
  | footnoteDefinition => "footnoteDefinition"
  | footnoteReference => "footnoteReference"

/-- The tag with the given own spelling. -/
def ofName? (s : String) : Option Tag := all.find? fun t => t.name == s

/-- The tag with the given syntax tree spelling. -/
def ofMdastName? (s : String) : Option Tag := all.find? fun t => t.mdastName == s

theorem mem_all (t : Tag) : t ∈ all := by cases t <;> decide

theorem ofName?_name (t : Tag) : ofName? t.name = some t := by cases t <;> decide

theorem ofMdastName?_mdastName (t : Tag) : ofMdastName? t.mdastName = some t := by
  cases t <;> decide

theorem name_of_ofName? {s : String} {t : Tag} (h : ofName? s = some t) : t.name = s := by
  simpa using List.find?_some h

theorem mdastName_of_ofMdastName? {s : String} {t : Tag} (h : ofMdastName? s = some t) :
    t.mdastName = s := by
  simpa using List.find?_some h

end Tag

/-- The kind of a node: a known tag, or a foreign name that no tag has. -/
inductive Kind where
  | tag (t : Tag)
  | foreign (name : String) (fresh : Tag.ofName? name = none)
deriving DecidableEq, Repr

namespace Kind

instance : Inhabited Kind := ⟨.tag .root⟩

instance : Coe Tag Kind := ⟨.tag⟩

/-- The kind with the given own name: a tag if one has this name, and a foreign kind otherwise. -/
def ofName (s : String) : Kind :=
  match h : Tag.ofName? s with
  | some t => .tag t
  | none => .foreign s h

/-- The kind that the type name of a serialized node stands for. The syntax tree spelling is tried
    first, then the library's own. -/
def resolve (s : String) : Kind :=
  match Tag.ofMdastName? s with
  | some t => .tag t
  | none => ofName s

/-- The name of a kind, in the library's own spelling. -/
def name : Kind → String
  | tag t => t.name
  | foreign s _ => s

/-- Whether a kind is one of the known ones. -/
def isKnown : Kind → Bool
  | tag _ => true
  | foreign .. => false

theorem ofName_eq_tag {s : String} {t : Tag} (h : Tag.ofName? s = some t) : ofName s = .tag t := by
  unfold ofName; split <;> simp_all

theorem ofName_eq_foreign {s : String} (h : Tag.ofName? s = none) : ofName s = .foreign s h := by
  unfold ofName; split <;> simp_all

/-- A kind is determined by its name. -/
@[simp] theorem ofName_name (k : Kind) : ofName k.name = k := by
  cases k with
  | tag t => exact ofName_eq_tag (Tag.ofName?_name t)
  | foreign s h => exact ofName_eq_foreign h

/-- Reading a name and printing it again changes nothing. -/
@[simp] theorem name_ofName (s : String) : (ofName s).name = s := by
  cases h : Tag.ofName? s with
  | some t => rw [ofName_eq_tag h]; exact Tag.name_of_ofName? h
  | none => rw [ofName_eq_foreign h]; rfl

end Kind

end Unmark
