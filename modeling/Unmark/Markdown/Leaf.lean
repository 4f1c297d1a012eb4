import Unmark.Markdown.Block
import Unmark.Markdown.Html
import Unmark.Markdown.Url

/-
Module: Unmark.Markdown.Leaf
Layer: Markdown
Purpose: Rules for blocks that hold no other blocks: blank lines, code, headings, thematic breaks and
  HTML. Each rule looks at a scan that stands at the start of a line.
Main exports: blankLines, fencedCode, indentedCode, markedHeading, underlineLevel?, thematicBreak,
  htmlBlock, interruptingHtml
-/

namespace Unmark.Markdown.Leaf

/-- Blank lines, as many as there are. -/
def blankLines (s : Scan) : Attempt :=
  let lines := linesOf s.ahead
  match lines with
  | line :: _ =>
    if isBlankFullLine line then .read (s.emit .blank (lines.dropWhile isBlankFullLine).flatten)
    else .absent
  | [] => .absent

/-!
## Code

Fenced code runs to a line with a fence of the same character that is at least as long, or to the end.
Indented code goes on over white space, which may end within a line.
-/

/-- The opening of fenced code: its indentation, the character and length of its fence, and the rest of
    its line. -/
structure Fence where
  indent : Nat
  mark : Char
  length : Nat
  info : List Char

/-- The fence that a line opens. -/
def fence? (line : List Char) : Option Fence :=
  let (indent, rest) := leadingSpaces 3 line
  match rest with
  | c :: _ =>
    if c = '\x60' ∨ c = '~' then
      let length := (rest.takeWhile (· = c)).length
      if 3 ≤ length then some ⟨indent, c, length, (rest.drop length).dropWhile isBlank⟩ else none
    else none
  | [] => none

/-- Whether a line, given with its end, closes a fence. -/
def Fence.closedBy (f : Fence) (line : List Char) : Bool :=
  let rest := dropSpaces 3 (takeLine line).1
  let length := (rest.takeWhile (· = f.mark)).length
  f.length ≤ length && isBlankText (rest.drop length)

/-- Fenced code. A fence of backticks has no backtick in the rest of its line. -/
def fencedCode (s : Scan) : Attempt :=
  match fence? (takeLine s.ahead).1 with
  | none => .absent
  | some f =>
    if f.mark = '\x60' ∧ f.info.contains '\x60' then .refused
    else
      let lines := linesOf (afterLine s.ahead)
      let code := (lines.takeWhile (!f.closedBy ·)).flatten
      let ahead := ((lines.dropWhile (!f.closedBy ·)).drop 1).flatten
      let info := if f.info.isEmpty then none else some (Text.trim (unescape f.info))
      .read (s.emit (.code (mapLines (dropSpaces f.indent) code) info) ahead)

/-- Where indented code ends that has been read up to here: it goes on with indented lines and with white
    space. The fuel is the length of the text. -/
def afterIndented : Nat → List Char → List Char
  | 0, cs => cs
  | fuel + 1, cs =>
    let (line, _, rest) := takeLine cs
    if isIndented line then afterIndented fuel (rest.dropWhile (· = '\n'))
    else
      match cs with
      | c :: cs => if Text.isSpace c then afterIndented fuel cs else c :: cs
      | [] => []

/-- The source of indented code without its indentation and the empty lines around it. -/
def outdented (cs : List Char) : List Char :=
  Text.trimBy (· = '\n') (mapLines (fun line => dropSpaces 4 (expandTabTo 4 line)) cs)

/-- Indented code. After paragraph text the line belongs to the paragraph. -/
def indentedCode (s : Scan) : Attempt :=
  let (line, _, rest) := takeLine s.ahead
  if isIndented line then
    match s.continueParagraph? with
    | some s => .read s
    | none =>
      let ahead := afterIndented rest.length (rest.dropWhile (· = '\n'))
      let source := s.ahead.take (s.ahead.length - ahead.length)
      .read { s.emit (.code (outdented source) none) ahead with
        atLineStart := source.getLast? == some '\n' }
  else .absent

/-!
## Headings and breaks
-/

/-- White space of the ASCII repertoire. -/
def isPlainSpace (c : Char) : Bool :=
  c = ' ' || c = '\t' || c = '\n' || c = '\r' || c = '\x0b' || c = '\x0c'

/-- The text of a heading without the closing number signs; these stand alone or after white space. -/
def withoutClosing (text : List Char) : List Char :=
  let body := Text.trimEndBy Text.isSpace text
  let kept := Text.trimEndBy (· = '#') body
  if kept.length = body.length then text
  else
    match kept.getLast? with
    | none => []
    | some c => if Text.isSpace c then Text.trimEndBy Text.isSpace kept else text

/-- Whether a heading can have a level. -/
def isHeadingLevel (level : Nat) : Bool := 1 ≤ level && level ≤ 6

/-- A heading that starts with one to six number signs. -/
def markedHeading (s : Scan) : Attempt :=
  let rest := dropSpaces 3 (takeLine s.ahead).1
  let level := (rest.takeWhile (· = '#')).length
  let text := rest.drop level
  let apart :=
    match text with
    | [] => true
    | c :: _ => isBlank c
  if isHeadingLevel level && apart then
    .read (s.emit (.heading level (withoutClosing (Text.trimBy isPlainSpace text))) (afterLine s.ahead))
  else .absent

/-- The level that an underline of equals signs and hyphens gives to the text above it; its last
    character decides. -/
def underlineLevel? (line : List Char) : Option Nat :=
  let body := Text.trimEndBy isBlank (dropSpaces 3 line)
  if body.all fun c => c = '=' || c = '-' then
    match body.getLast? with
    | some '=' => some 1
    | some _ => some 2
    | none => none
  else none

/-- Whether a line is a thematic break: three or more of one mark, with blanks between them. -/
def isThematicBreak (line : List Char) : Bool :=
  let rest := dropSpaces 3 line
  match rest with
  | c :: _ =>
    (c = '-' || c = '_' || c = '*') && rest.all (fun d => d = c || isBlank d) && 3 ≤ rest.count c
  | [] => false

/-- A thematic break. -/
def thematicBreak (s : Scan) : Attempt :=
  if isThematicBreak (takeLine s.ahead).1 then .read (s.emit .thematicBreak (afterLine s.ahead))
  else .absent

/-!
## HTML

What opens a block of HTML decides where it ends: at the end of the line that holds an end mark, or before
the next blank line.
-/

/-- What may open a block of HTML. -/
inductive Opening where
  /-- A comment, an instruction, a declaration, or a section of character data, with its end mark. -/
  | through (mark : List Char)
  | openTag (name : String)
  | closeTag (name : String)

/-- The markup that opens a block of HTML, and what follows it. -/
def opening? (cs : List Char) : Option (Opening × List Char) :=
  match cs with
  | '<' :: '/' :: rest =>
    (Html.tagName? rest).map fun (name, rest) => (.closeTag (String.ofList name), rest)
  | '<' :: '!' :: '-' :: '-' :: rest => some (.through "-->".toList, rest)
  | '<' :: '?' :: rest => some (.through "?>".toList, rest)
  | '<' :: '!' :: '[' :: 'C' :: 'D' :: 'A' :: 'T' :: 'A' :: '[' :: rest =>
    some (.through "]]>".toList, rest)
  | '<' :: '!' :: c :: rest => if 'A' ≤ c ∧ c ≤ 'Z' then some (.through ['>'], rest) else none
  | '<' :: rest => (Html.tagName? rest).map fun (name, rest) => (.openTag (String.ofList name), rest)
  | _ => none

/-- HTML up to the end of the line that holds a mark after `rest` has begun. -/
def htmlThrough (mark : List Char) (rest : List Char) (s : Scan) : Attempt :=
  match Text.breakOn? mark rest with
  | none => .read (s.emit (.html s.ahead) [])
  | some (_, past) =>
    let ahead := afterLine past
    .read (s.emit (.html (s.ahead.take (s.ahead.length - ahead.length))) ahead)

/-- HTML up to the next blank line. -/
def htmlToBlank (s : Scan) : Attempt :=
  let lines := linesOf s.ahead
  .read (s.emit (.html (lines.takeWhile (!isBlankFullLine ·)).flatten)
    (lines.dropWhile (!isBlankFullLine ·)).flatten)

/-- Whether a line ends after blanks. -/
def endsLine (cs : List Char) : Bool :=
  match cs.dropWhile isBlank with
  | [] => true
  | c :: _ => c = '\n'

/-- Whether a tag that opens a line ends with it, from what follows the tag's name on the line. -/
def tagEndsLine (attributes : Bool) (cs : List Char) : Bool :=
  let ends := if attributes then Html.attributeEnds cs else [cs]
  ends.any fun rest =>
    match rest.dropWhile isBlank with
    | '>' :: rest => endsLine rest
    | _ => false

/-- HTML after its opening. A tag of no block element stands alone on its line, and its line
    belongs to a paragraph in front of it. -/
def htmlFrom (o : Opening) (rest : List Char) (s : Scan) : Attempt :=
  let alone (attributes : Bool) : Attempt :=
    match s.continueParagraph? with
    | some s => .read s
    | none =>
      let consumed := s.ahead.length - rest.length
      if tagEndsLine attributes ((lineWithEnd s.ahead).drop consumed) then htmlToBlank s else .refused
  match o with
  | .through mark => htmlThrough mark rest s
  | .closeTag name =>
    if Html.blockTags.contains (Text.lowerString name) then htmlToBlank s else alone false
  | .openTag name =>
    let name := Text.lowerString name
    if Html.verbatimTags.contains name then htmlThrough ("</" ++ name ++ ">").toList rest s
    else if Html.blockTags.contains name then htmlToBlank s
    else alone true

/-- A block of HTML. -/
def htmlBlock (s : Scan) : Attempt :=
  match opening? (dropSpaces 3 s.ahead) with
  | none => .absent
  | some (o, rest) => htmlFrom o rest s

/-- Whether an element name, as it is written, starts a block wherever its tag stands. -/
def isBlockName (name : String) : Bool :=
  Html.blockTags.contains name || Html.verbatimTags.contains name

/-- HTML that ends a block quote or a list item: markup other than a tag, or the tag of a block element
    in small letters with white space or a line end right after its name. -/
def interruptingHtml (s : Scan) : Attempt :=
  match opening? (dropSpaces 3 s.ahead) with
  | none => .absent
  | some (o, rest) =>
    match o with
    | .through _ => htmlFrom o rest s
    | .openTag name | .closeTag name =>
      if isBlockName name then
        match rest with
        | [] => htmlFrom o [] s
        | '\n' :: rest => htmlFrom o rest s
        | c :: _ => if isBlank c then htmlFrom o (rest.dropWhile isBlank) s else .absent
      else .absent

end Unmark.Markdown.Leaf
