import Unmark.Data

/-
Module: Unmark.Markdown.Token
Layer: Markdown
Purpose: The tokens between the Markdown grammar and the document tree. A token has a type, and may have
  a source text, attributes, a reference and child tokens. The types that the tree knows how to use are
  listed; any other is carried by name and dropped on the way.
Main exports: TokenType, TokenType.ofName, Token, Token.ofData
-/

namespace Unmark.Markdown

/-- The types of tokens. -/
inductive TokenType where
  -- blocks
  | paragraph | blockText | heading | blockCode | blockQuote | list | listItem | taskListItem
  | thematicBreak | blockHtml | table | tableHead | tableBody | tableRow | tableCell
  | footnotes | footnoteItem | blankLine
  -- inlines
  | text | softBreak | lineBreak | strong | emphasis | strikethrough | codeSpan | link | image
  | inlineHtml | footnoteRef
  | other (name : String)
deriving DecidableEq, Repr, Inhabited

namespace TokenType

/-- The names of the listed types. -/
def names : List (TokenType × String) :=
  [(paragraph, "paragraph"), (blockText, "block_text"), (heading, "heading"),
   (blockCode, "block_code"), (blockQuote, "block_quote"), (list, "list"), (listItem, "list_item"),
   (taskListItem, "task_list_item"), (thematicBreak, "thematic_break"), (blockHtml, "block_html"),
   (table, "table"), (tableHead, "table_head"), (tableBody, "table_body"), (tableRow, "table_row"),
   (tableCell, "table_cell"), (footnotes, "footnotes"), (footnoteItem, "footnote_item"),
   (blankLine, "blank_line"), (text, "text"), (softBreak, "softbreak"), (lineBreak, "linebreak"),
   (strong, "strong"), (emphasis, "emphasis"), (strikethrough, "strikethrough"),
   (codeSpan, "codespan"), (link, "link"), (image, "image"), (inlineHtml, "inline_html"),
   (footnoteRef, "footnote_ref")]

/-- The type with a given name. -/
def ofName (s : String) : TokenType :=
  match names.find? fun e => e.2 == s with
  | some (t, _) => t
  | none => other s

/-- The name of a type. -/
def name : TokenType → String
  | other s => s
  | t =>
    match names.find? fun e => e.1 == t with
    | some (_, s) => s
    | none => ""

end TokenType

/-- A token. `reference` is the key under which a link was resolved, `label` the text it was written
    with; both may hold anything, and a token is a reference when the first is there at all. -/
inductive Token where
  | mk (type : TokenType) (raw : Option String) (attrs : Fields) (reference label : Option Data)
      (children : List Token)
deriving Inhabited

namespace Token

def type : Token → TokenType
  | mk t .. => t

/-- The source text of a token; a token without one has the empty text. -/
def raw : Token → String
  | mk _ r .. => r.getD ""

def raw? : Token → Option String
  | mk _ r .. => r

def attrs : Token → Fields
  | mk _ _ a .. => a

def reference : Token → Option Data
  | mk _ _ _ r .. => r

def label : Token → Option Data
  | mk _ _ _ _ l _ => l

def children : Token → List Token
  | mk _ _ _ _ _ cs => cs

/-- A token with nothing but child tokens. -/
def parent (type : TokenType) (children : List Token) : Token :=
  mk type none [] none none children

/-- A token with nothing but a source text. -/
def leaf (type : TokenType) (raw : String) : Token := mk type (some raw) [] none none []

mutual

/-- The token that a value describes. A value that is no object describes a token without a type. -/
def ofData : Data → Token
  | .map es =>
    let type :=
      match Data.lookup "type" es with
      | some (.str s) => s
      | _ => ""
    let raw :=
      match Data.lookup "raw" es with
      | some (.str s) => some s
      | _ => none
    let attrs :=
      match Data.lookup "attrs" es with
      | some (.map fs) => Data.fields fs
      | _ => []
    mk (.ofName type) raw attrs (Data.lookup "ref" es) (Data.lookup "label" es) (childrenOf es)
  | _ => mk (.other "") none [] none none []

/-- The child tokens among the entries of an object. -/
def childrenOf : List (Data × Data) → List Token
  | [] => []
  | (.str "children", .list ds) :: _ => ofDatas ds
  | _ :: es => childrenOf es

/-- The tokens that a list of values describes. -/
def ofDatas : List Data → List Token
  | [] => []
  | d :: ds => ofData d :: ofDatas ds

end

end Token

end Unmark.Markdown
