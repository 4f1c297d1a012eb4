import Unmark.Markdown.Container
import Unmark.Markdown.Inline
import Unmark.Markdown.Options

/-
Module: Unmark.Markdown.Grammar
Layer: Markdown
Purpose: From a text to tokens. The text is scanned into blocks, which finds the definitions of the whole
  document; the texts of the blocks are then read with these at hand. The footnotes that were referred to
  come last, in the order of their first reference; their texts are scanned as blocks of their own.
Main exports: Document, tokenize
-/

namespace Unmark.Markdown

/-- A text with line feeds for all line ends, and one at its end. -/
def normalizeLines (cs : List Char) : List Char :=
  let rec go : List Char → List Char
    | [] => []
    | '\r' :: '\n' :: rest => '\n' :: go rest
    | '\r' :: rest => '\n' :: go rest
    | c :: rest => c :: go rest
  let text := go cs
  if text.getLast? == some '\n' then text else text ++ ['\n']

/-- The tokens of the text of a block. -/
def inlineTokens (ctx : Inline.Context) (cs : List Char) : List Token :=
  Inline.tokens ctx (Text.trimBy (fun c => c = ' ' || c = '\r' || c = '\n' || c = '\t' || c = '\x0c') cs)

/-- The tokens of the cells of a row. -/
def cellTokens (ctx : Inline.Context) (row : Row) : List Token :=
  row.map fun cell => .parent .tableCell (inlineTokens ctx cell)

/-- Whether a task is done, and its text, if a text starts with a check box and white space. -/
def task? (text : List Char) : Option (Bool × List Char) :=
  match text with
  | '[' :: c :: ']' :: d :: rest =>
    if (c = ' ' ∨ c = 'x' ∨ c = 'X') ∧ Text.isSpace d then
      some (c ≠ ' ', rest.dropWhile Text.isSpace)
    else none
  | _ => none

mutual

/-- The token of a block. If `tasks` is on, an item whose first block is a paragraph that starts with a
    check box is a task. -/
def blockToken (ctx : Inline.Context) (tasks : Bool) : Block → Token
  | .blank => .parent .blankLine []
  | .paragraph text => .parent .paragraph (inlineTokens ctx text)
  | .heading level text =>
    .mk .heading none [("level", .int level)] none none (inlineTokens ctx text)
  | .code text info =>
    let attrs : Fields := match info with
      | some i => [("info", .str (String.ofList i))]
      | none => []
    .mk .blockCode (some (String.ofList text)) attrs none none []
  | .html text => .leaf .blockHtml (String.ofList text)
  | .thematicBreak => .parent .thematicBreak []
  | .quote bs => .parent .blockQuote (blockTokens ctx tasks bs)
  | .list start items =>
    let attrs : Fields := match start with
      | none => [("ordered", .bool false)]
      | some n => [("ordered", .bool true), ("start", .int n)]
    .mk .list none attrs none none (blockTokens ctx tasks items)
  | .item (.paragraph text :: bs) =>
    match if tasks then task? text else none with
    | some (done, text) =>
      .mk .taskListItem none [("checked", .bool done)] none none
        (.parent .paragraph (inlineTokens ctx text) :: blockTokens ctx tasks bs)
    | none =>
      .parent .listItem (.parent .paragraph (inlineTokens ctx text) :: blockTokens ctx tasks bs)
  | .item bs => .parent .listItem (blockTokens ctx tasks bs)
  | .table head body =>
    .parent .table
      [.parent .tableHead (cellTokens ctx head),
       .parent .tableBody (body.map fun row => .parent .tableRow (cellTokens ctx row))]

/-- The tokens of blocks. -/
def blockTokens (ctx : Inline.Context) (tasks : Bool) : List Block → List Token
  | [] => []
  | b :: bs => blockToken ctx tasks b :: blockTokens ctx tasks bs

end

/-!
## Footnotes
-/

namespace Token

/-- The keys of all footnote references below a list of tokens, in document order. -/
def noteKeys : List Token → List String
  | [] => []
  | mk t raw _ _ _ cs :: ts =>
    (if t = .footnoteRef then [raw.getD ""] else noteKeys cs) ++ noteKeys ts

end Token

/-- The text of a footnote without the indentation of its further lines, if it has any that are not
    empty; the first of these says how far they are indented. -/
def outdentNote? (text : List Char) : Option (List Char) :=
  let lines := (Text.splitLines text).map (Text.trimEndBy Text.isLineEnd)
  match (lines.drop 1).find? (!·.isEmpty) with
  | none => none
  | some line =>
    let indent := line.length - (Text.trimStartBy Text.isSpace line).length
    some (Text.trim (mapLines (fun l =>
      if (leadingSpaces indent l).1 = indent then l.dropWhile (· = ' ') else l) text) ++ ['\n'])

/-- The blocks of a footnote, and the definitions known after it. -/
def noteBlocks (rules : Rules) (env : Environment) (text : List Char) : List Block × Environment :=
  match outdentNote? text with
  | none => ([.paragraph (Text.trim text)], env)
  | some body =>
    let scan := Scan.run rules env 1 body
    (scan.blocks, scan.env)

/-- The blocks of footnotes, and the definitions known after them. -/
def notesBlocks (rules : Rules) (env : Environment) :
    List String → List (String × List Block) × Environment
  | [] => ([], env)
  | key :: keys =>
    let (bs, env) := noteBlocks rules env ((env.note? key).getD [])
    let (rest, env) := notesBlocks rules env keys
    ((key, bs) :: rest, env)

/-!
## Documents
-/

/-- The tokens of a document, and the definitions found in it. -/
structure Document where
  tokens : List Token
  env : Environment

/-- The tokens of a text. -/
def tokenize (o : Options) (cs : List Char) : Document :=
  let rules : Rules := { tables := o.tables, notes := o.footnotes }
  let context (env : Environment) : Inline.Context :=
    { env, strikethrough := o.strikethrough, notes := o.footnotes }
  let scan := Scan.run rules {} 0 (normalizeLines cs)
  let body := blockTokens (context scan.env) o.taskLists scan.blocks
  let keys := (Token.noteKeys body).eraseDups
  let (notes, env) := notesBlocks rules scan.env keys
  let items := notes.map fun (key, bs) =>
    Token.mk .footnoteItem none [("key", .str key)] none none (blockTokens (context env) false bs)
  { tokens := if items.isEmpty then body else body ++ [.parent .footnotes items]
    env }

end Unmark.Markdown
