import Unmark.Panel.Width
import Unmark.Text.Space

/-
Module: Unmark.Panel.Wrap
Layer: Panel
Purpose: A text in lines of limited width. A line is broken in front of a word that does not fit any more; a
  word that fits on no line is broken wherever a line is full. A word here brings the white space
  around it along, which need not fit.
Main exports: pieces, breaks, wrapLine, wrap
-/

namespace Unmark.Panel

/-- The first word of a text with the white space around it, and the rest. There is none in a text of nothing
    but white space. -/
def firstWord? (cs : List Char) : Option (List Char × List Char) :=
  let before := cs.takeWhile Text.isSpace
  let cs := cs.dropWhile Text.isSpace
  let word := cs.takeWhile fun c => !Text.isSpace c
  let cs := cs.dropWhile fun c => !Text.isSpace c
  if word.isEmpty then none
  else some (before ++ word ++ cs.takeWhile Text.isSpace, cs.dropWhile Text.isSpace)

/-- The words of a text with the white space around them. Each word uses up a character, so the length of the
    text is enough fuel. -/
def spacedWords : Nat → List Char → List (List Char)
  | 0, _ => []
  | fuel + 1, cs =>
    match firstWord? cs with
    | some (word, rest) => word :: spacedWords fuel rest
    | none => []

/-- The pieces of a measured word that fill lines of some width. `piece` is the piece so far, last character
    first, and `used` its cells. -/
def piecesFrom (limit : Nat) (piece : List Char) (used : Nat) : List (Char × Nat) → List (List Char)
  | [] => [piece.reverse]
  | (c, w) :: rest =>
    if limit < used + w then piece.reverse :: piecesFrom limit [c] w rest
    else piecesFrom limit (c :: piece) (used + w) rest

/-- The pieces of a word that fill lines of some width. -/
def pieces (limit : Nat) (word : List Char) : List (List Char) := piecesFrom limit [] 0 (measured word)

/-- Where pieces start, the first of them at `start`; and how many cells the last one takes. -/
def pieceStarts (start : Nat) : List (List Char) → List Nat × Nat
  | [] => ([], 0)
  | [piece] => ([start], width piece)
  | piece :: rest =>
    let (starts, last) := pieceStarts (start + piece.length) rest
    (start :: starts, last)

/-- Where lines start, other than the first one. `start` is where the next word starts, and `used` how many
    cells of its line are in use. -/
def breaks (limit start used : Nat) : List (List Char) → List Nat
  | [] => []
  | word :: rest =>
    let next := start + word.length
    let needed := width (Text.trimEndBy Text.isSpace word)
    if used + needed ≤ limit then breaks limit next (used + width word) rest
    else if limit < needed then
      let (starts, last) := pieceStarts start (pieces limit word)
      starts.filter (· ≠ 0) ++ breaks limit next last rest
    else if start ≠ 0 then start :: breaks limit next (width word) rest
    else breaks limit next used rest

/-- A text cut at some places, which are in order. `done` is how far it has been cut. -/
def cutAt (done : Nat) (cs : List Char) : List Nat → List (List Char)
  | [] => [cs]
  | n :: ns => cs.take (n - done) :: cutAt n (cs.drop (n - done)) ns

/-- A line without the white space at its end that is beyond the limit, by number of characters. -/
def withoutExcess (limit : Nat) (cs : List Char) : List Char :=
  let blanks := (cs.reverse.takeWhile Text.isSpace).length
  cs.take (cs.length - min blanks (cs.length - limit))

/-- A line of text broken into lines of limited width. -/
def wrapLine (limit : Nat) (cs : List Char) : List (List Char) :=
  let cs := if cs.contains '\t' then withoutTabs cs else cs
  (cutAt 0 cs (breaks limit 0 0 (spacedWords cs.length cs))).map fun line =>
    cropped limit (withoutExcess limit line)

/-- A text in lines of limited width. -/
def wrap (limit : Nat) (cs : List Char) : List (List Char) :=
  (Text.splitAt '\n' cs).flatMap (wrapLine limit)

end Unmark.Panel
