import Unmark.Markdown.Block

/-
Module: Unmark.Markdown.Table
Layer: Markdown
Purpose: Tables. A table is a head row, a row of delimiters that says how many columns there are, and rows
  with exactly as many cells. A framed table has a bar at both ends of every row; an open one need not.
  Rows that do not agree in their number of cells are paragraph text from the head row on, all of them.
Main exports: cells, framedTable, openTable
-/

namespace Unmark.Markdown.Table

/-- A character in front of the first of some pieces. -/
def prepend (c : Char) : List (List Char) → List (List Char)
  | [] => [[c]]
  | p :: ps => (c :: p) :: ps

/-- The pieces of a row between its bars. A bar that a backslash escapes belongs to a cell. -/
def pieces : List Char → List (List Char)
  | [] => [[]]
  | '|' :: cs => [] :: pieces cs
  | '\\' :: c :: cs => prepend '\\' (prepend c (pieces cs))
  | c :: cs => prepend c (pieces cs)

/-- The cells of a row, without white space around them. -/
def cells (row : List Char) : Row := (pieces (Text.trim row)).map Text.trim

/-- Whether the cell of a delimiter row is well formed: hyphens with a colon at either end, or nothing. -/
def isDelimiter (cell : List Char) : Bool :=
  let tail := match cell with
    | ':' :: rest => rest
    | _ => cell
  let hyphens := tail.takeWhile (· = '-')
  let rest := tail.drop hyphens.length
  cell.isEmpty || (!hyphens.isEmpty && (rest.isEmpty || rest == [':']))

/-- The rows of a text, each with the same number of cells. -/
def rows? (columns : Nat) (row? : List Char → Option Row) (text : List Char) : Option (List Row) :=
  ((Text.splitLines text).map (Text.trimEndBy Text.isLineEnd)).mapM fun line =>
    match row? line with
    | some r => if r.length = columns then some r else none
    | none => none

/-- The table that its parts come to. -/
def table? (head delimiters : List Char) (row? : List Char → Option Row) (body : List Char) :
    Option Block :=
  let head := cells head
  let delimiters := cells delimiters
  if head.length = delimiters.length ∧ delimiters.all isDelimiter then
    (rows? head.length row? body).map (Block.table head)
  else none

/-- What stands between the bars at the ends of a line. -/
def framed? (line : List Char) : Option (List Char) :=
  match dropSpaces 3 line with
  | '|' :: rest =>
    match (Text.trimEndBy isBlank rest).reverse with
    | '|' :: inside => some inside.reverse
    | _ => none
  | _ => none

/-- Whether a text may stand in a delimiter row: hyphens, colons, bars and spaces, and not bars and spaces
    alone. -/
def isDelimiterText (cs : List Char) : Bool :=
  cs.all (fun c => c = '-' || c = ':' || c = '|' || c = ' ') && cs.any fun c => c = '-' || c = ':'

/-- The scan after rows that stand in front of some lines: with the table that they come to, or with the
    rows as paragraph text. Empty lines right after a table belong to it. -/
def settle (s : Scan) (token? : Option Block) (after : List (List Char)) : Scan :=
  let ahead := after.flatten
  match token? with
  | some token => s.emit token (ahead.dropWhile (· = '\n'))
  | none => s.readAs (s.ahead.take (s.ahead.length - ahead.length)) ahead

/-- A table with a bar at both ends of every row. -/
def framedTable (s : Scan) : Attempt :=
  match takeLine s.ahead with
  | (first, true, rest) =>
    match takeLine rest with
    | (second, true, rest) =>
      match framed? first, framed? second with
      | some head, some delimiters =>
        if head.isEmpty ∨ ¬ isDelimiterText delimiters then .absent
        else
          let lines := linesOf rest
          let isRow (line : List Char) : Bool := (framed? (takeLine line).1).isSome
          let row? (line : List Char) : Option Row :=
            (framed? line).bind fun inside => if inside.isEmpty then none else some (cells inside)
          .read (settle s (table? head delimiters row? (lines.takeWhile isRow).flatten)
            (lines.dropWhile isRow))
      | _, _ => .absent
    | _ => .absent
  | _ => .absent

/-- Whether a line can be the head of an open table: it holds a bar after its first character. -/
def isOpenHead (line : List Char) : Bool :=
  match line with
  | c :: rest => !Text.isSpace c && rest.contains '|'
  | [] => false

/-- Whether a line can be the delimiter row of an open table. -/
def isOpenDelimiter (line : List Char) : Bool :=
  line.head? != some ' ' && line.contains '|' && isDelimiterText line

/-- A table whose rows need no bars at their ends. -/
def openTable (s : Scan) : Attempt :=
  match takeLine s.ahead with
  | (first, true, rest) =>
    match takeLine rest with
    | (second, true, rest) =>
      let head := dropSpaces 3 first
      let delimiters := dropSpaces 3 second
      if isOpenHead head ∧ isOpenDelimiter delimiters then
        let lines := linesOf rest
        let isRow (line : List Char) : Bool := line.contains '|'
        let row? (line : List Char) : Option Row := some (cells line)
        .read (settle s (table? head delimiters row? (lines.takeWhile isRow).flatten)
          (lines.dropWhile isRow))
      else .absent
    | _ => .absent
  | _ => .absent

end Unmark.Markdown.Table
