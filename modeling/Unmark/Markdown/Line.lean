import Unmark.Text.Space

/-
Module: Unmark.Markdown.Line
Layer: Markdown
Purpose: Lines as the block grammar sees them: they end at line feeds and nowhere else. The functions
  here take lines off a text, expand a tab near the start of a line, and cut indentation.
Main exports: takeLine, linesOf, mapLines, expandTab, expandTabTo, dropSpaces, isBlankFullLine, isIndented
-/

namespace Unmark.Markdown

/-- The first line of a text without its line end, whether it has one, and what follows it. -/
def takeLine (cs : List Char) : List Char × Bool × List Char :=
  let body := cs.takeWhile (· ≠ '\n')
  match cs.drop body.length with
  | [] => (body, false, [])
  | _ :: rest => (body, true, rest)

/-- The first line of a text with its line end if it has one. -/
def lineWithEnd (cs : List Char) : List Char :=
  let (body, ended, _) := takeLine cs
  if ended then body ++ ['\n'] else body

/-- What follows the first line of a text. -/
def afterLine (cs : List Char) : List Char := (takeLine cs).2.2

/-- The lines of a text, each with its line end; the last line may have none. -/
def linesOf : List Char → List (List Char)
  | [] => []
  | c :: cs =>
    if c = '\n' then [c] :: linesOf cs
    else
      match linesOf cs with
      | [] => [[c]]
      | line :: lines => (c :: line) :: lines

/-- A text with every line, its end left out, replaced by its image. -/
def mapLines (f : List Char → List Char) (cs : List Char) : List Char :=
  Text.join ['\n'] ((Text.splitAt '\n' cs).map f)

/-- Whether a character is a space or a tab. -/
def isBlank (c : Char) : Bool := c = ' ' || c = '\t'

/-- The spaces at the start of a text, `most` of them at most, and what follows them. -/
def leadingSpaces : Nat → List Char → Nat × List Char
  | most + 1, ' ' :: cs =>
    let (n, rest) := leadingSpaces most cs
    (n + 1, rest)
  | _, cs => (0, cs)

/-- A line whose first character after at most three spaces is a tab, with `fill` of the number of these
    spaces in place of the tab. -/
def replaceTab (fill : Nat → Nat) (line : List Char) : List Char :=
  match leadingSpaces 3 line with
  | (n, '\t' :: rest) => List.replicate (n + fill n) ' ' ++ rest
  | _ => line

/-- A line with a tab near its start expanded up to a column. -/
def expandTabTo (column : Nat) (line : List Char) : List Char := replaceTab (column - ·) line

/-- A line with a tab near its start replaced by four spaces. -/
def expandTab (line : List Char) : List Char := replaceTab (fun _ => 4) line

/-- A line without the spaces at its start, `most` of them at most. -/
def dropSpaces (most : Nat) (line : List Char) : List Char := (leadingSpaces most line).2

/-- Whether a line holds nothing but spaces, tabs, vertical tabs and form feeds. -/
def isBlankLine (line : List Char) : Bool :=
  line.all fun c => c = ' ' || c = '\t' || c = '\x0b' || c = '\x0c'

/-- Whether a line holds nothing but spaces and tabs. -/
def isBlankText (line : List Char) : Bool := line.all isBlank

/-- Whether a line, given with its end, ends in a line feed and holds nothing else that shows. -/
def isBlankFullLine (line : List Char) : Bool := line.getLast? == some '\n' && isBlankLine line.dropLast

/-- Whether a line is indented like code: four spaces, or spaces and a tab, and then something more. -/
def isIndented (line : List Char) : Bool :=
  (match leadingSpaces 4 line with
    | (4, _ :: _) => true
    | _ => false) ||
  (match line.dropWhile (· = ' ') with
    | '\t' :: _ :: _ => true
    | _ => false)

end Unmark.Markdown
