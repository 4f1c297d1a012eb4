import Unmark.Markdown.Leaf
import Unmark.Markdown.Reference
import Unmark.Markdown.Table
import Unmark.Text.Digit

/-
Module: Unmark.Markdown.Container
Layer: Markdown
Purpose: Block quotes and lists, and the scan of a whole text into blocks. A container gathers the text
  that belongs to it, line by line, and that text is then scanned by itself. What ends a container may be
  another block; it has been read by then, and the container takes its place before it.

  The scan is bounded by fuel. Every step of a scan reads a line or what is left of one, and the text of
  a container is made of lines of the text around it, so a multiple of the length of the text is enough.
Main exports: Rules, scanBlocks, Scan.run
-/

namespace Unmark.Markdown

/-- Which blocks a text may hold beside those that every text may hold. -/
structure Rules where
  quotes : Bool := true
  lists : Bool := true
  tables : Bool := false
  notes : Bool := false
deriving Inhabited

/-- Containers may nest up to this depth. -/
def depthLimit : Nat := 20

/-!
## Lists
-/

/-- The first line of a list item: its indentation, its mark, and the rest of the line. -/
structure ItemStart where
  indent : Nat
  mark : List Char
  text : List Char
deriving Inhabited

/-- The rest of a line after a list mark, which is empty or starts with a blank. -/
def ItemStart.of? (indent : Nat) (mark rest : List Char) : Option ItemStart :=
  match rest with
  | [] => some ⟨indent, mark, rest⟩
  | c :: _ => if isBlank c then some ⟨indent, mark, rest⟩ else none

/-- The digits at the start of a text, nine at most, and what follows them. -/
def shortDigits (cs : List Char) : List Char × List Char :=
  let ds := (cs.takeWhile Text.isDigit).take 9
  (ds, cs.drop ds.length)

/-- The first line of a list: a bullet, or a number and a full stop or parenthesis. -/
def listStart? (line : List Char) : Option ItemStart :=
  let (indent, rest) := leadingSpaces 3 line
  match rest with
  | c :: tail =>
    if c = '*' ∨ c = '+' ∨ c = '-' then ItemStart.of? indent [c] tail
    else
      match shortDigits rest with
      | (d :: ds, c :: tail) =>
        if c = '.' ∨ c = ')' then ItemStart.of? indent (d :: ds ++ [c]) tail else none
      | _ => none
  | [] => none

/-- The first line of a further item of a list whose marks end with `bullet`. A number may be left out
    here. -/
def itemStart? (most : Nat) (bullet : Char) (line : List Char) : Option ItemStart :=
  let (indent, rest) := leadingSpaces most line
  if bullet = '.' ∨ bullet = ')' then
    match shortDigits rest with
    | (ds, c :: tail) => if c = bullet then ItemStart.of? indent (ds ++ [c]) tail else none
    | _ => none
  else
    match rest with
    | c :: tail => if c = bullet then ItemStart.of? indent [c] tail else none
    | [] => none

/-- The text on the first line of an item, and the width by which the lines that go on with the item are
    indented. -/
def ItemStart.layout (i : ItemStart) : List Char × Nat :=
  let lead := i.indent + i.mark.length
  let text := expandTab (expandTabTo 3 i.text)
  let gap := (text.takeWhile Text.isSpace).length
  if gap = text.length then ([], lead + 1)
  else
    let width := if (leadingSpaces 5 text).1 = 5 then 1 else gap
    (text.drop width ++ ['\n'], lead + width)

/-- The number of an ordered list, and nothing for a bullet list. -/
def ItemStart.number? (i : ItemStart) : Option Nat :=
  if i.mark.length ≤ 1 then none else some (Text.natOfDigits i.mark.dropLast)

/-- The lines of an item without the indentation that puts them into it. -/
def undented (width : Nat) (cs : List Char) : List Char :=
  mapLines (fun line =>
    match Text.after? (List.replicate width ' ') line with
    | some rest => expandTab rest
    | none => line) cs

/-- The text of an item with one line end in place of the white space at its end. -/
def closeText (cs : List Char) : List Char :=
  let body := Text.trimEndBy Text.isSpace cs
  let tail := cs.drop body.length
  if tail.contains '\n' then body ++ tail.takeWhile (· ≠ '\n') ++ ['\n'] else cs

/-- How the lines of an item end. -/
inductive ItemEnd where
  /-- The list ends with the item. -/
  | last
  /-- A further item follows. -/
  | next (start : ItemStart)
  /-- A block has been read that ends the list; so many blocks were found before it. -/
  | broken (count : Nat)
deriving Inhabited

/-!
## Block quotes
-/

/-- Whether a line belongs to a block quote by its mark. -/
def isMarked (line : List Char) : Bool := (dropSpaces 3 line).head? == some '>'

/-- The content of a quoted line, from the text after its mark. -/
def quotedContent (line : List Char) : List Char := dropSpaces 1 (expandTabTo 3 line)

/-- The content of a line with a mark. -/
def markedContent (line : List Char) : List Char :=
  quotedContent ((line.dropWhile (· = ' ')).drop 1)

/-- Whether a block quote whose content starts like this holds marked lines only. -/
def isStrict (content : List Char) : Bool :=
  isBlankLine content || isIndented content || (Leaf.fence? content).isSome

/-- Whether the content of marked lines ends with a blank line. -/
def endsBlank (lines : List (List Char)) : Bool :=
  lines.all (·.all Text.isSpace) ||
    match lines.reverse with
    | last :: _ :: _ => last.getLast? == some '\n' && isBlankText last.dropLast
    | _ => false

/-!
## The scan
-/

mutual

/-- The blocks of a text, to its end. -/
def scanBlocks (fuel : Nat) (rules : Rules) (depth : Nat) (s : Scan) : Scan :=
  match fuel with
  | 0 => s
  | fuel + 1 =>
    if s.ahead.isEmpty then s
    else if s.atLineStart then
      match attempt fuel rules depth s with
      | .read s => scanBlocks fuel rules depth s
      | _ => scanBlocks fuel rules depth s.readText
    else scanBlocks fuel rules depth s.readText

/-- The rule that applies at the start of a line. -/
def attempt (fuel : Nat) (rules : Rules) (depth : Nat) (s : Scan) : Attempt :=
  match fuel with
  | 0 => .absent
  | fuel + 1 =>
    .firstOf
      [Leaf.fencedCode, Leaf.indentedCode, Leaf.markedHeading, underline fuel depth,
        Leaf.thematicBreak,
        fun s => if rules.quotes then quote fuel depth s else .absent,
        fun s => if rules.lists then list fuel depth s else .absent,
        fun s => if rules.notes then noteDefinition s else .absent,
        linkDefinition, Leaf.htmlBlock, Leaf.blankLines,
        fun s => if rules.tables then Table.framedTable s else .absent,
        fun s => if rules.tables then Table.openTable s else .absent] s

/-- An underline makes a heading of the paragraph in front of it. Where there is none the line may be a
    thematic break or an empty list item. -/
def underline (fuel : Nat) (depth : Nat) (s : Scan) : Attempt :=
  match fuel with
  | 0 => .absent
  | fuel + 1 =>
    match Leaf.underlineLevel? (takeLine s.ahead).1 with
    | none => .absent
    | some level =>
      match s.found with
      | .paragraph text :: found =>
        .read ({ s with found := .heading level text :: found }.goOn (afterLine s.ahead))
      | _ =>
        match Attempt.firstOf [Leaf.thematicBreak, list fuel depth] s with
        | .read s => .read s
        | _ => .refused

/-- A block quote. -/
def quote (fuel : Nat) (depth : Nat) (s : Scan) : Attempt :=
  match fuel with
  | 0 => .absent
  | fuel + 1 =>
    let line := (takeLine s.ahead).1
    if isMarked line then
      let content := markedContent line
      let after := s.goOn (afterLine s.ahead)
      let (text, after, broken) :=
        if isStrict content then
          let lines := linesOf after.ahead
          ((lines.takeWhile isMarked).flatMap markedContent,
            after.goOn (lines.dropWhile isMarked).flatten, false)
        else quoteLines fuel depth false after
      let child := scanBlocks fuel { quotes := depth + 1 < depthLimit } (depth + 1)
        { ahead := mapLines expandTab (content ++ '\n' :: text), env := after.env }
      let after := { after with env := child.env }
      let token := Block.quote child.blocks
      .read (if broken then after.emitBeforeLast token else after.emit token after.ahead)
    else .absent

/-- The further content of a block quote that may go on without marks, the scan after it, and whether a
    block was read that ends it. -/
def quoteLines (fuel : Nat) (depth : Nat) (afterBlank : Bool) (s : Scan) :
    List Char × Scan × Bool :=
  match fuel with
  | 0 => ([], s, false)
  | fuel + 1 =>
    if s.ahead.isEmpty then ([], s, false)
    else
      let lines := linesOf s.ahead
      let marked := (lines.takeWhile isMarked).map markedContent
      if !marked.isEmpty then
        let (text, after, broken) :=
          quoteLines fuel depth (endsBlank marked) (s.goOn (lines.dropWhile isMarked).flatten)
        (marked.flatten ++ text, after, broken)
      else if afterBlank then ([], s, false)
      else
        match Attempt.firstOf
            [Leaf.blankLines, Leaf.thematicBreak, Leaf.fencedCode, list fuel depth,
              Leaf.interruptingHtml] s with
        | .read s => ([], s, true)
        | _ =>
          let (text, after, broken) := quoteLines fuel depth false (s.goOn (afterLine s.ahead))
          (expandTabTo 3 (lineWithEnd s.ahead) ++ text, after, broken)

/-- A list. An empty item and a number other than one do not interrupt a paragraph. -/
def list (fuel : Nat) (depth : Nat) (s : Scan) : Attempt :=
  match fuel with
  | 0 => .absent
  | fuel + 1 =>
    match listStart? (takeLine s.ahead).1 with
    | none => .absent
    | some start =>
      let weak := start.text.all Text.isSpace || start.number?.getD 1 != 1
      match if weak then s.continueParagraph? else none with
      | some s => .read s
      | none =>
        let bullet := start.mark.getLastD '-'
        let (items, after, broken) := listItems fuel depth bullet start (s.goOn (afterLine s.ahead))
        let token := Block.list start.number? items
        .read (match broken with
          | some count => after.emitAt count token
          | none => after.emit token after.ahead)

/-- The items of a list from a given one on, and the scan after them. If a block was read that ends the
    list, the number of blocks found before it is given too. -/
def listItems (fuel : Nat) (depth : Nat) (bullet : Char) (start : ItemStart) (s : Scan) :
    List Block × Scan × Option Nat :=
  match fuel with
  | 0 => ([], s, none)
  | fuel + 1 =>
    let (first, width) := start.layout
    let lead := min 3 (start.indent + start.mark.length)
    let (source, after, ending) := itemLines fuel depth bullet lead width first.isEmpty false false s
    let child := scanBlocks fuel { lists := depth + 1 < depthLimit } (depth + 1)
      { ahead := closeText (first ++ undented width source), env := after.env }
    let after := { after with env := child.env }
    let item := Block.item child.blocks
    match ending with
    | .last => ([item], after, none)
    | .broken count => ([item], after, some count)
    | .next start =>
      let (items, after, broken) := listItems fuel depth bullet start after
      (item :: items, after, broken)

/-- The further lines of an item, the scan after them, and how they end. `lead` is the indentation up to
    which a block may end the item, `width` that of the lines that go on with it. -/
def itemLines (fuel : Nat) (depth : Nat) (bullet : Char) (lead width : Nat)
    (bare afterBlank hasText : Bool) (s : Scan) : List Char × Scan × ItemEnd :=
  match fuel with
  | 0 => ([], s, .last)
  | fuel + 1 =>
    if s.ahead.isEmpty then ([], s, .last)
    else
      let line := lineWithEnd s.ahead
      let next := s.goOn (afterLine s.ahead)
      let within (text : List Char) (blank text? : Bool) : List Char × Scan × ItemEnd :=
        let (more, after, ending) :=
          itemLines fuel depth bullet lead width bare blank (hasText || text?) next
        (text ++ more, after, ending)
      if isBlankFullLine line then within ['\n'] true false
      else
        let text := expandTabTo 4 line
        let shows := !text.all Text.isSpace
        if (leadingSpaces width text).1 = width then
          if afterBlank && bare && !hasText then ([], s, .last) else within text false shows
        else
          let more : List Char × Scan × ItemEnd :=
            if afterBlank then ([], s, .last) else within text false shows
          let line := (takeLine line).1
          if lead < (line.takeWhile (· = ' ')).length then more
          else if Leaf.isThematicBreak line then
            match Leaf.thematicBreak s with
            | .read after => ([], after, .broken s.found.length)
            | _ => more
          else
            match itemStart? lead bullet line with
            | some start => ([], next, .next start)
            | none =>
              match Attempt.firstOf
                  [Leaf.fencedCode, Leaf.markedHeading, quote fuel depth, Leaf.interruptingHtml]
                  s with
              | .read after => ([], after, .broken s.found.length)
              | .refused => more
              | .absent => if (listStart? line).isSome then ([], s, .last) else more

end

namespace Scan

/-- Fuel for the scan of a text. -/
def fuel (cs : List Char) : Nat := 8 * cs.length + 64

/-- The scan of a text to its end, with definitions that are known already. -/
def run (rules : Rules) (env : Environment) (depth : Nat) (cs : List Char) : Scan :=
  scanBlocks (fuel cs) rules depth { ahead := cs, env }

end Scan

end Unmark.Markdown
