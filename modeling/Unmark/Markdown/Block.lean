import Unmark.Markdown.Line
import Unmark.Markdown.TokenTree

/-
Module: Unmark.Markdown.Block
Layer: Markdown
Purpose: The blocks of a document and the state of a scan over its text. A scan holds the blocks found so
  far, the definitions met on the way and the text ahead. A rule of the block grammar looks at the text
  ahead and reports one of three outcomes: its opening is not there, or it is there but the rest of the
  construct is not, or it was read. Text that no rule takes belongs to a paragraph; paragraph text that
  follows a paragraph continues it.
Main exports: Block, Environment, Scan, Attempt, Scan.emit, Scan.readText, Scan.continueParagraph?
-/

namespace Unmark.Markdown

/-- The cells of a table row, as they are written. -/
abbrev Row := List (List Char)

/-- A block. The text of paragraphs, headings and cells has not been looked into yet. -/
inductive Block where
  | blank
  | paragraph (text : List Char)
  | heading (level : Nat) (text : List Char)
  | code (text : List Char) (info : Option (List Char))
  | html (text : List Char)
  | thematicBreak
  | quote (children : List Block)
  | list (start : Option Nat) (items : List Block)
  | item (children : List Block)
  | table (head : Row) (body : List Row)
deriving Inhabited

/-- The definitions of a document: links in the order in which they were met, and the texts of
    footnotes. Each is stored under its key, and the first definition of a key counts. -/
structure Environment where
  links : List (String × Definition) := []
  notes : List (String × List Char) := []
deriving Inhabited

namespace Environment

def link? (env : Environment) (key : String) : Option Definition := env.links.lookup key

def note? (env : Environment) (key : String) : Option (List Char) := env.notes.lookup key

/-- An environment with a link definition, unless its key is taken. -/
def addLink (env : Environment) (key : String) (d : Definition) : Environment :=
  if (env.link? key).isSome then env else { env with links := env.links ++ [(key, d)] }

/-- An environment with a footnote, unless its key is taken. -/
def addNote (env : Environment) (key : String) (text : List Char) : Environment :=
  if (env.note? key).isSome then env else { env with notes := env.notes ++ [(key, text)] }

end Environment

/-- The state of a scan. `found` holds the blocks found so far, last one first; `atLineStart` says
    whether the text ahead starts a line. -/
structure Scan where
  ahead : List Char
  found : List Block := []
  env : Environment := {}
  atLineStart : Bool := true
deriving Inhabited

namespace Scan

/-- The blocks found, in document order. -/
def blocks (s : Scan) : List Block := s.found.reverse

/-- A scan that goes on at the start of a line. -/
def goOn (s : Scan) (ahead : List Char) : Scan := { s with ahead, atLineStart := true }

/-- A scan that has found one more block and goes on at the start of a line. -/
def emit (s : Scan) (b : Block) (ahead : List Char) : Scan :=
  { s with ahead, found := b :: s.found, atLineStart := true }

/-- A scan that has found a block whose place is before the last block found. -/
def emitBeforeLast (s : Scan) (b : Block) : Scan :=
  match s.found with
  | last :: earlier => { s with found := last :: b :: earlier }
  | [] => { s with found := [b] }

/-- A scan that has found a block whose place is after the first `count` blocks found. -/
def emitAt (s : Scan) (count : Nat) (b : Block) : Scan :=
  let later := s.found.length - count
  { s with found := s.found.take later ++ b :: s.found.drop later }

/-- Blocks with more paragraph text at their end. -/
def addParagraph (found : List Block) (text : List Char) : List Block :=
  match found with
  | .paragraph before :: earlier => .paragraph (before ++ text) :: earlier
  | found => .paragraph text :: found

/-- A scan that has read some lines as paragraph text. -/
def readAs (s : Scan) (text ahead : List Char) : Scan :=
  { s with ahead, found := addParagraph s.found text, atLineStart := true }

/-- A scan that has read the line ahead, or what is left of it, as paragraph text. -/
def readText (s : Scan) : Scan := s.readAs (lineWithEnd s.ahead) (afterLine s.ahead)

/-- A scan that has read the line ahead as part of the paragraph in front of it, if there is one. -/
def continueParagraph? (s : Scan) : Option Scan :=
  match s.found with
  | .paragraph _ :: _ => some s.readText
  | _ => none

end Scan

/-- What a rule makes of the text ahead. -/
inductive Attempt where
  /-- The rule does not apply. -/
  | absent
  /-- The rule applies, and what must follow its opening does not. -/
  | refused
  | read (s : Scan)
deriving Inhabited

namespace Attempt

/-- The first rule of a list that applies decides. -/
def firstOf (rules : List (Scan → Attempt)) (s : Scan) : Attempt :=
  match rules with
  | [] => .absent
  | r :: rs =>
    match r s with
    | .absent => firstOf rs s
    | a => a

end Attempt

end Unmark.Markdown
