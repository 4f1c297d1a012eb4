import Unmark.Display
import Unmark.Log.Record
import Unmark.Markdown.Entity
import Unmark.Markdown.Label
import Unmark.Markdown.Token
import Unmark.Tree.Build

/-
Module: Unmark.Markdown.TokenTree
Layer: Markdown
Purpose: From tokens to document nodes. Block tokens become block nodes, inline tokens become phrases;
  runs of text and soft line breaks become one text node, with character references replaced. Tokens of
  types that have no node are dropped and noted in the log, without breaking a run of text. Link
  reference definitions become nodes of their own.
Main exports: Definition, flatten, phrases, blocks, definitions, phraseDrops, blockDrops
-/

namespace Unmark.Markdown

namespace Token

/-- The text that all tokens of a list come to when marks are ignored. -/
def flattenAll : List Token → List Char
  | [] => []
  | mk t raw _ _ _ cs :: ts =>
    (match t with
      | .text => Entity.decodeChars (raw.getD "").toList
      | .codeSpan => (raw.getD "").toList
      | .softBreak | .lineBreak => ['\n']
      | _ => flattenAll cs) ++ flattenAll ts

/-- The text that all tokens of a list come to when marks are ignored. -/
def flatten (ts : List Token) : String := String.ofList (flattenAll ts)

end Token

/-- A title with its character references replaced. -/
def decodeTitle : Option Data → Option String
  | some (.str s) => some (Entity.decode s)
  | _ => none

/-- A URL attribute; one that is missing is empty. -/
def urlOf : Option Data → Option String
  | none => some ""
  | some (.str s) => some s
  | some _ => none

/-- The name of the definition that a token refers to: from its label if that is a text, and else from
    its key. -/
def referenceName (reference : Data) (label : Option Data) : String :=
  match label with
  | some (.str s) => labelName s
  | _ => Text.lowerString reference.display

/-- The depth of a heading; one that is not given is 1. -/
def depthOf (attrs : Fields) : Option Int :=
  match attrs.get? "level" with
  | none => some 1
  | some (.int n) => some n
  | some _ => none

/-- Whether a list is ordered, and the number of its first item if it is. -/
def numberingOf (attrs : Fields) : Bool × Option Int :=
  let ordered := ((attrs.get? "ordered").getD (.bool false)).truthy
  if ordered then
    match attrs.get? "start" with
    | none => (true, some 1)
    | some (.int n) => (true, some n)
    | some _ => (true, none)
  else (false, none)

/-- Whether a task is done. -/
def checkedOf (attrs : Fields) : Option Bool :=
  match attrs.get? "checked" with
  | some (.bool b) => some b
  | _ => none

/-- The language of a code block: the first word of its info text. -/
def languageOf (attrs : Fields) : Option String :=
  match attrs.get? "info" with
  | some (.str s) => (Text.words s.toList).head?.map String.ofList
  | _ => none

/-- The source of a code block without its final line end. -/
def codeText (raw : List Char) : List Char :=
  match raw.reverse with
  | '\n' :: '\r' :: rest => rest.reverse
  | '\n' :: rest => rest.reverse
  | _ => raw

/-- The name of a footnote definition: its key, or else its label, or else its number. -/
def footnoteName (attrs : Fields) : String :=
  (((attrs.get? "key").or ((attrs.get? "label").or (attrs.get? "index"))).getD (.str "")).display

/-- The name of a footnote reference: its label, or else its source text, or else its number; empty ones
    are passed over. -/
def footnoteReferenceName (raw : Option String) (attrs : Fields) : String :=
  let label := (attrs.get? "label").getD .null
  if label.truthy then label.display
  else if raw.getD "" ≠ "" then raw.getD ""
  else ((attrs.get? "index").getD (.str "")).display

/-!
## Phrases

A run of text is held back until a token comes that has a node of its own.
-/

/-- The text node of a run that was held back. -/
def release : Option String → List Node
  | none => []
  | some s => [Build.text s]

/-- A run with more text. -/
def extend (run : Option String) (s : String) : Option String := some (run.getD "" ++ s)

/-- The nodes of inline tokens, after a run of text that is held back. -/
def phrasesFrom (run : Option String) : List Token → List Node
  | [] => release run
  | .mk t raw attrs reference label cs :: ts =>
    match t with
    | .text => phrasesFrom (extend run (Entity.decode (raw.getD ""))) ts
    | .softBreak => phrasesFrom (extend run "\n") ts
    | .strong => release run ++ Build.strong (phrasesFrom none cs) :: phrasesFrom none ts
    | .emphasis => release run ++ Build.emphasis (phrasesFrom none cs) :: phrasesFrom none ts
    | .strikethrough =>
      release run ++ Build.strikethrough (phrasesFrom none cs) :: phrasesFrom none ts
    | .codeSpan => release run ++ Build.inlineCode (raw.getD "") :: phrasesFrom none ts
    | .link =>
      let node :=
        match reference with
        | some r => Build.linkReference (referenceName r label) (phrasesFrom none cs)
        | none =>
          Build.link (urlOf (attrs.get? "url")) (decodeTitle (attrs.get? "title"))
            (phrasesFrom none cs)
      release run ++ node :: phrasesFrom none ts
    | .image =>
      let alt := Token.flatten cs
      let node :=
        match reference with
        | some r => Build.imageReference (referenceName r label) alt
        | none => Build.image (urlOf (attrs.get? "url")) alt (decodeTitle (attrs.get? "title"))
      release run ++ node :: phrasesFrom none ts
    | .lineBreak => release run ++ Build.lineBreak :: phrasesFrom none ts
    | .inlineHtml => release run ++ Build.rawHtml (raw.getD "") :: phrasesFrom none ts
    | .footnoteRef =>
      release run ++ Build.footnoteReference (footnoteReferenceName raw attrs) :: phrasesFrom none ts
    | _ => phrasesFrom run ts

/-- The nodes of inline tokens. -/
def phrases (ts : List Token) : List Node := phrasesFrom none ts

/-- The records about inline tokens that have no node, in document order. What stands below an image is
    not looked at. -/
def phraseDrops : List Token → List Log.Record
  | [] => []
  | .mk t _ _ _ _ cs :: ts =>
    (match t with
      | .strong | .emphasis | .strikethrough | .link => phraseDrops cs
      | .text | .softBreak | .codeSpan | .image | .lineBreak | .inlineHtml | .footnoteRef => []
      | t =>
        [Log.Source.parsing.record .debug
          s!"Dropping unsupported inline Markdown token '{t.name}'"]) ++ phraseDrops ts

/-!
## Blocks
-/

/-- The cells of a table row. -/
def cells : List Token → List Node
  | [] => []
  | .mk .tableCell _ _ _ _ cs :: ts => Build.tableCell (phrases cs) :: cells ts
  | _ :: ts => cells ts

/-- The rows of a table body. -/
def bodyRows : List Token → List Node
  | [] => []
  | .mk .tableRow _ _ _ _ cs :: ts => Build.tableRow (cells cs) :: bodyRows ts
  | _ :: ts => bodyRows ts

/-- The rows of a table. Its head is the first of them. -/
def rows : List Token → List Node
  | [] => []
  | .mk .tableHead _ _ _ _ cs :: ts => Build.tableRow (cells cs) :: rows ts
  | .mk .tableBody _ _ _ _ cs :: ts => bodyRows cs ++ rows ts
  | _ :: ts => rows ts

mutual

/-- The nodes of block tokens. -/
def blocks : List Token → List Node
  | [] => []
  | .mk t raw attrs _ _ cs :: ts =>
    (match t with
      | .paragraph | .blockText => [Build.paragraph (phrases cs)]
      | .heading => [Build.heading (depthOf attrs) (phrases cs)]
      | .blockCode =>
        [Build.code (String.ofList (codeText (raw.getD "").toList)) (languageOf attrs)]
      | .blockQuote => [Build.blockquote (blocks cs)]
      | .list => [Build.list (numberingOf attrs).1 (numberingOf attrs).2 (blocks cs)]
      | .listItem => [Build.listItem none (blocks cs)]
      | .taskListItem => [Build.listItem (checkedOf attrs) (blocks cs)]
      | .thematicBreak => [Build.thematicBreak]
      | .blockHtml => [Build.rawHtml (raw.getD "")]
      | .table => [Build.table (rows cs)]
      | .footnotes => footnoteItems cs
      | _ => []) ++ blocks ts

/-- The definitions of a footnote section. -/
def footnoteItems : List Token → List Node
  | [] => []
  | .mk .footnoteItem _ attrs _ _ cs :: ts =>
    Build.footnoteDefinition (footnoteName attrs) (blocks cs) :: footnoteItems ts
  | _ :: ts => footnoteItems ts

end

/-- The records about inline tokens in the cells of a row. -/
def cellDrops : List Token → List Log.Record
  | [] => []
  | .mk .tableCell _ _ _ _ cs :: ts => phraseDrops cs ++ cellDrops ts
  | _ :: ts => cellDrops ts

/-- The records about inline tokens in the rows of a table body. -/
def bodyDrops : List Token → List Log.Record
  | [] => []
  | .mk .tableRow _ _ _ _ cs :: ts => cellDrops cs ++ bodyDrops ts
  | _ :: ts => bodyDrops ts

/-- The records about inline tokens in a table. -/
def rowDrops : List Token → List Log.Record
  | [] => []
  | .mk .tableHead _ _ _ _ cs :: ts => cellDrops cs ++ rowDrops ts
  | .mk .tableBody _ _ _ _ cs :: ts => bodyDrops cs ++ rowDrops ts
  | _ :: ts => rowDrops ts

mutual

/-- The records about tokens that have no node, in document order. -/
def blockDrops : List Token → List Log.Record
  | [] => []
  | .mk t _ _ _ _ cs :: ts =>
    (match t with
      | .paragraph | .blockText | .heading => phraseDrops cs
      | .blockQuote | .list | .listItem | .taskListItem => blockDrops cs
      | .table => rowDrops cs
      | .footnotes => footnoteDrops cs
      | .blockCode | .thematicBreak | .blockHtml | .blankLine => []
      | t =>
        [Log.Source.parsing.record .debug s!"Dropping unsupported Markdown token '{t.name}'"])
      ++ blockDrops ts

/-- The records about tokens in a footnote section. -/
def footnoteDrops : List Token → List Log.Record
  | [] => []
  | .mk .footnoteItem _ _ _ _ cs :: ts => blockDrops cs ++ footnoteDrops ts
  | _ :: ts => footnoteDrops ts

end

/-!
## Link reference definitions
-/

/-- A link reference definition. -/
structure Definition where
  label : Option String
  url : Option Data
  title : Option Data
deriving Inhabited

/-- The definition that a value describes; values that are no objects describe none. -/
def Definition.ofData? : Data → Option Definition
  | .map es =>
    let label :=
      match Data.lookup "label" es with
      | some (.str s) => some s
      | _ => none
    some ⟨label, Data.lookup "url" es, Data.lookup "title" es⟩
  | _ => none

/-- The node of a definition that is stored under a key. Its name comes from its label, or else from
    the key. -/
def Definition.node (key : String) (d : Definition) : Node :=
  let name :=
    match d.label with
    | some s => labelName s
    | none => Text.lowerString key
  Build.definition name (urlOf d.url) (decodeTitle d.title)

/-- The nodes of stored definitions, in their order. -/
def definitions (links : List (String × Definition)) : List Node :=
  links.map fun (key, d) => d.node key

end Unmark.Markdown
