import Unmark.Tree.Node

/-
Module: Unmark.Tree.Build
Layer: Tree
Purpose: One constructor function for every kind of node, each setting exactly the payload fields that
  its kind uses. Trees made by hand and trees made from Markdown are built with these.
Main exports: Build.root, Build.paragraph, Build.text, Build.link, Build.list, and one more per tag
-/

namespace Unmark.Build

/-- A node of a known kind without metadata. -/
def node (t : Tag) (payload : Payload) (children : List Node) : Node :=
  .mk (.tag t) payload [] children

/-- The root of a document. -/
def root (children : List Node) (metadata : Fields) : Node :=
  .mk (.tag .root) {} metadata.entries children

def paragraph (children : List Node) : Node := node .paragraph {} children

/-- A heading of the given depth, counted from 1 for the topmost. -/
def heading (depth : Option Int) (children : List Node) : Node := node .heading { depth } children

def text (value : String) : Node := node .text { value := some value } []

def emphasis (children : List Node) : Node := node .emphasis {} children

def strong (children : List Node) : Node := node .strong {} children

def strikethrough (children : List Node) : Node := node .strikethrough {} children

def link (url : Option String) (title : Option String) (children : List Node) : Node :=
  node .link { url, title } children

def image (url : Option String) (alt : String) (title : Option String) : Node :=
  node .image { url, alt := some alt, title } []

def inlineCode (value : String) : Node := node .inlineCode { value := some value } []

/-- A block of source code, with its language when one is named. -/
def code (value : String) (lang : Option String) : Node :=
  node .code { value := some value, lang } []

def lineBreak : Node := node .lineBreak {} []

def linkReference (identifier : String) (children : List Node) : Node :=
  node .linkReference { identifier := some identifier } children

def imageReference (identifier alt : String) : Node :=
  node .imageReference { identifier := some identifier, alt := some alt } []

def definition (identifier : String) (url title : Option String) : Node :=
  node .definition { identifier := some identifier, url, title } []

def rawHtml (value : String) : Node := node .rawHtml { value := some value } []

/-- A list of items. `start` is the number of the first item of an ordered list. -/
def list (ordered : Bool) (start : Option Int) (items : List Node) : Node :=
  node .list { ordered := some ordered, start } items

/-- A list item; a task item is checked or not, any other item neither. -/
def listItem (checked : Option Bool) (children : List Node) : Node :=
  node .listItem { checked } children

def blockquote (children : List Node) : Node := node .blockquote {} children

def thematicBreak : Node := node .thematicBreak {} []

def table (rows : List Node) : Node := node .table {} rows

def tableRow (cells : List Node) : Node := node .tableRow {} cells

def tableCell (children : List Node) : Node := node .tableCell {} children

/-- Front matter: its source text, and as metadata the value it denotes, if it denotes one. -/
def frontMatter (value : String) (data : Data) : Node :=
  .mk (.tag .frontMatter) { value := some value }
    (match data with
      | .null => []
      | d => [(.str "data", d)]) []

def footnoteDefinition (identifier : String) (children : List Node) : Node :=
  node .footnoteDefinition { identifier := some identifier } children

def footnoteReference (identifier : String) : Node :=
  node .footnoteReference { identifier := some identifier } []

end Unmark.Build
