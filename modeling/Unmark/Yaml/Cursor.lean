import Unmark.Text.Space

/-
Module: Unmark.Yaml.Cursor
Layer: Yaml
Purpose: A place in a YAML text. YAML has its own notion of line ends; the column decides about structure,
  and a byte order mark takes none.
Main exports: isBreak, isGap, Cursor, Cursor.next, Cursor.skip, Cursor.lineBreak?
-/

namespace Unmark.Yaml

/-- Whether a character ends a line. -/
def isBreak (c : Char) : Bool :=
  c = '\n' || c = '\r' || c = '\x85' || c = '\u2028' || c = '\u2029'

/-- Whether a character is a space, a tab or a line end. -/
def isGap (c : Char) : Bool := c = ' ' || c = '\t' || isBreak c

/-- Whether a character may stand in a YAML text. -/
def isAllowed (c : Char) : Bool :=
  let n := c.toNat
  n = 9 || n = 10 || n = 13 || (0x20 ≤ n && n ≤ 0x7E) || n = 0x85 || (0xA0 ≤ n && n ≤ 0xD7FF)
    || (0xE000 ≤ n && n ≤ 0xFFFD) || 0x10000 ≤ n

/-- A place in a text: what lies ahead, and how many characters, lines and columns lie behind. -/
structure Cursor where
  ahead : List Char
  index : Nat := 0
  line : Nat := 0
  column : Nat := 0
deriving Inhabited

namespace Cursor

/-- The character ahead. -/
def head? (c : Cursor) : Option Char := c.ahead.head?

/-- Whether the character ahead belongs to a class. -/
def at? (c : Cursor) (p : Char → Bool) : Bool := (c.head?.map p).getD false

/-- Whether the text ends here or goes on with a character of a class. -/
def endOr (c : Cursor) (p : Char → Bool) : Bool := (c.head?.map p).getD true

/-- The place after the next character. -/
def next (c : Cursor) : Cursor :=
  match c.ahead with
  | [] => c
  | ch :: rest =>
    let index := c.index + 1
    if isBreak ch && !(ch = '\r' && rest.head? == some '\n') then
      ⟨rest, index, c.line + 1, 0⟩
    else if ch = '\ufeff' then ⟨rest, index, c.line, c.column⟩
    else ⟨rest, index, c.line, c.column + 1⟩

/-- The place after a number of characters. -/
def skip : Nat → Cursor → Cursor
  | 0, c => c
  | n + 1, c => skip n c.next

/-- The characters of a class from here on, and the place after them. -/
def span (p : Char → Bool) (c : Cursor) : List Char × Cursor :=
  let run := c.ahead.takeWhile p
  (run, c.skip run.length)

/-- The place after the characters of a class. -/
def skipWhile (p : Char → Bool) (c : Cursor) : Cursor := (c.span p).2

/-- The line end here, and the place after it. A carriage return, a line feed and their sequence are all
    the same line end. -/
def lineBreak? (c : Cursor) : Option (Char × Cursor) :=
  match c.ahead with
  | '\r' :: '\n' :: _ => some ('\n', c.skip 2)
  | ch :: _ =>
    if ch = '\r' || ch = '\n' || ch = '\x85' then some ('\n', c.next)
    else if isBreak ch then some (ch, c.next)
    else none
  | [] => none

/-- The place after a comment that starts here. -/
def skipComment (c : Cursor) : Cursor :=
  if c.at? (· = '#') then c.skipWhile (!isBreak ·) else c

/-- Whether three marks and then a gap or the end lie ahead. -/
def marksAhead (mark : Char) (c : Cursor) : Bool :=
  match c.ahead with
  | a :: b :: d :: rest =>
    a = mark && b = mark && d = mark && ((rest.head?.map isGap).getD true)
  | _ => false

/-- Whether the mark of a document's start or end lies ahead. -/
def separatorAhead (c : Cursor) : Bool := c.marksAhead '-' || c.marksAhead '.'

end Cursor

end Unmark.Yaml
