import Unmark.Text.Space

/-
Module: Unmark.Markdown.Html
Layer: Markdown
Purpose: The grammar of HTML tags, as far as Markdown looks at it: tag names, attributes, and the five
  kinds of markup that may stand within a line. A value of an attribute without quotes may run over
  line ends, and where it ends is not settled by the characters alone; the grammar therefore gives the
  possible ends, the furthest first, and the first one that what follows accepts is taken.
Main exports: tagName?, attributeEnds, inlineMarkup?, blockTags, verbatimTags
-/

namespace Unmark.Markdown.Html

def isLetter (c : Char) : Bool := ('a' ≤ c && c ≤ 'z') || ('A' ≤ c && c ≤ 'Z')

def isAlphanumeric (c : Char) : Bool := isLetter c || ('0' ≤ c && c ≤ '9')

/-- Elements that start a block of HTML, wherever they stand at the start of a line. -/
def blockTags : List String :=
  ["address", "article", "aside", "base", "basefont", "blockquote", "body", "caption", "center",
   "col", "colgroup", "dd", "details", "dialog", "dir", "div", "dl", "dt", "fieldset", "figcaption",
   "figure", "footer", "form", "frame", "frameset", "h1", "h2", "h3", "h4", "h5", "h6", "head",
   "header", "hr", "html", "iframe", "legend", "li", "link", "main", "menu", "menuitem", "meta",
   "nav", "noframes", "ol", "optgroup", "option", "p", "param", "section", "source", "summary",
   "table", "tbody", "td", "tfoot", "th", "thead", "title", "tr", "track", "ul"]

/-- Elements whose content is left alone up to their closing tag. -/
def verbatimTags : List String := ["pre", "script", "style", "textarea"]

/-- A tag name at the start of a text, and what follows it. -/
def tagName? : List Char → Option (List Char × List Char)
  | c :: cs =>
    if isLetter c then
      let isPart (d : Char) : Bool := isAlphanumeric d || d = '-'
      some (c :: cs.takeWhile isPart, cs.dropWhile isPart)
    else none
  | [] => none

def isAttributeStart (c : Char) : Bool := isLetter c || c = '_' || c = ':'

def isAttributePart (c : Char) : Bool := isAlphanumeric c || c = '_' || c = ':' || c = '.' || c = '-'

/-- Characters of a value without quotes. -/
def isBareValue (c : Char) : Bool :=
  !(c = ' ' || c = '!' || c = '\x22' || c = '\x27' || c = '=' || c = '<' || c = '>' || c = '\x60')

/-- What follows the next place where a character stands. -/
def pastNext? (close : Char) (cs : List Char) : Option (List Char) :=
  match cs.dropWhile (· ≠ close) with
  | [] => none
  | _ :: rest => some rest

/-- The possible ends of a value without quotes: where its characters end, and before that in front of
    every white space among them. -/
def bareValueEnds (cs : List Char) : List (List Char) :=
  match cs with
  | [] => []
  | c :: rest =>
    if isBareValue c then
      let further := bareValueEnds rest
      match rest with
      | [] => [rest]
      | d :: _ =>
        if !isBareValue d then [rest]
        else if Text.isSpace d then further ++ [rest]
        else further
    else []

/-- The possible ends of the value of an attribute, from the text after the attribute's name. An
    attribute need not have a value. -/
def valueEnds (cs : List Char) : List (List Char) :=
  match cs.dropWhile Text.isSpace with
  | '=' :: rest =>
    match rest.dropWhile Text.isSpace with
    | '\x27' :: rest => ((pastNext? '\x27' rest).map fun r => [r]).getD [cs]
    | '\x22' :: rest => ((pastNext? '\x22' rest).map fun r => [r]).getD [cs]
    | rest =>
      let ends := bareValueEnds rest
      if ends.isEmpty then [cs] else ends
  | _ => [cs]

/-- The possible ends of a list of attributes, each with white space in front of it. The fuel is the
    length of the text. -/
def attributeEndsFrom : Nat → List Char → List (List Char)
  | 0, cs => [cs]
  | fuel + 1, cs =>
    match cs with
    | [] => [cs]
    | c :: _ =>
      if Text.isSpace c then
        match cs.dropWhile Text.isSpace with
        | d :: rest =>
          if isAttributeStart d then
            (valueEnds (rest.dropWhile isAttributePart)).flatMap (attributeEndsFrom fuel)
          else [cs]
        | [] => [cs]
      else [cs]

/-- The possible ends of a list of attributes. -/
def attributeEnds (cs : List Char) : List (List Char) := attributeEndsFrom cs.length cs

/-- The end of a tag, after its attributes. -/
def tagEnd? (cs : List Char) : Option (List Char) :=
  match cs.dropWhile Text.isSpace with
  | '>' :: rest => some rest
  | '/' :: '>' :: rest => some rest
  | _ => none

/-- An opening tag, from the text after its first character. -/
def openTag? (cs : List Char) : Option (List Char) :=
  match tagName? cs with
  | some (_, rest) => (attributeEnds rest).findSome? tagEnd?
  | none => none

/-- A closing tag, from the text after its first two characters. -/
def closeTag? (cs : List Char) : Option (List Char) :=
  match tagName? cs with
  | some (_, rest) =>
    match rest.dropWhile Text.isSpace with
    | '>' :: rest => some rest
    | _ => none
  | none => none

/-- What follows the first place where a text stands, after at least one character. -/
def pastText? (needle : List Char) : List Char → Option (List Char)
  | [] => none
  | _ :: cs => (Text.breakOn? needle cs).map Prod.snd

/-- A comment, from the text after its opening. It ends with its first two hyphens and `>`, and the
    hyphens of its opening may count as these. -/
def comment? (cs : List Char) : Option (List Char) :=
  match cs with
  | '>' :: rest | '-' :: '>' :: rest => some rest
  | _ => (Text.breakOn? ['-', '-', '>'] cs).map Prod.snd

/-- Markup within a line, and what follows it: a tag, a comment, an instruction, a declaration, or a
    section of character data. -/
def inlineMarkup? (cs : List Char) : Option (List Char) :=
  match cs with
  | '<' :: '/' :: rest => closeTag? rest
  | '<' :: '!' :: '-' :: '-' :: rest => comment? rest
  | '<' :: '?' :: rest => (Text.breakOn? ['?', '>'] rest).map Prod.snd
  | '<' :: '!' :: '[' :: 'C' :: 'D' :: 'A' :: 'T' :: 'A' :: rest => pastText? [']', ']', '>'] rest
  | '<' :: '!' :: c :: rest => if 'A' ≤ c ∧ c ≤ 'Z' then pastText? ['>'] rest else none
  | '<' :: rest => openTag? rest
  | _ => none

end Unmark.Markdown.Html
