import Unmark.Panel.Markup
import Unmark.Panel.Wrap

/-
Module: Unmark.Panel.Frame
Layer: Panel
Purpose: A text in a frame with rounded corners and a title. The frame is as wide as the terminal, and one cell
  on either side of the text stays blank. A few controls are left out of what is shown.
Main exports: Frame, terminalWidth, draw, Display, wanted
-/

namespace Unmark.Panel

/-- The cells in a line of the terminal. -/
def terminalWidth : Nat := 80

/-- The cells in a line that the text can take, within the frame and the blanks. -/
def textWidth : Nat := terminalWidth - 4

/-- Controls that are not shown. -/
def unshown : List Char :=
  [Char.ofNat 7, Char.ofNat 8, Char.ofNat 11, Char.ofNat 12, Char.ofNat 13]

/-- A text without the controls that are not shown. -/
def shown (cs : List Char) : List Char := cs.filter fun c => !unshown.contains c

/-- A title in the line above the text, between blanks. -/
def titleText (title : List Char) : Except Markup.Stray (List Char) := do
  let plain := shown (← Markup.plain title)
  let line := withoutTabs (plain.map fun c => if c = '\n' then ' ' else c)
  return cropped textWidth (' ' :: line ++ [' '])

/-- The line above the text. A title that is empty is left out. -/
def topLine (title : List Char) : Except Markup.Stray (List Char) := do
  let inner ←
    if title.isEmpty then pure []
    else pure ('─' :: (← titleText title))
  return '╭' :: padded '─' (terminalWidth - 2) inner ++ ['╮']

/-- A line of the text in its frame. -/
def framedLine (line : List Char) : List Char := '│' :: ' ' :: padded ' ' textWidth line ++ [' ', '│']

/-- The line below the text. -/
def bottomLine : List Char := '╰' :: List.replicate (terminalWidth - 2) '─' ++ ['╯']

/-- A text in its frame. -/
def draw (text title : String) : Except Markup.Stray String := do
  let top ← topLine title.toList
  let lines := top :: (wrap textWidth (shown text.toList)).map framedLine ++ [bottomLine]
  return String.ofList (lines.flatMap fun line => line ++ ['\n'])

/-- What output goes to. -/
inductive Display where
  | terminal | pipe | closed | unknown
deriving DecidableEq, Repr, Inhabited

/-- Whether output is shown in a frame: if that is asked for, no file takes the output, and it goes to a
    terminal. -/
def wanted (asked toFile : Bool) (d : Display) : Bool := asked && !toFile && d == .terminal

end Unmark.Panel
