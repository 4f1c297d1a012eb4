import Unmark.Panel.WidthTable
import Unmark.Text.Case

/-
Module: Unmark.Panel.Width
Layer: Panel
Purpose: How many cells of a terminal a text takes. Controls take none, and so does a character that is joined
  to the one before it by a joiner.
Main exports: charWidth, measured, width, cropped, padded, withoutTabs
-/

namespace Unmark.Panel

/-- The cells of a character by itself. -/
def charWidth (c : Char) : Nat :=
  let n := c.toNat
  if n < 0x20 then 0
  else if n < 0x7F then 1
  else if n < 0xA0 then 0
  else if Text.inRanges wideRanges n then 2
  else if Text.inRanges emptyRanges n then 0
  else 1

/-- The character that joins the next one to the one before it. -/
def joiner : Char := Char.ofNat 0x200D

/-- The characters of a text with their cells. `joined` says that the one before was a joiner. -/
def measuredFrom (joined : Bool) : List Char → List (Char × Nat)
  | [] => []
  | c :: cs => (c, if joined then 0 else charWidth c) :: measuredFrom (c = joiner) cs

/-- The characters of a text with their cells. -/
def measured (cs : List Char) : List (Char × Nat) := measuredFrom false cs

/-- The cells of a text. -/
def width (cs : List Char) : Nat := (measured cs).foldl (fun n c => n + c.2) 0

/-- The longest start of a measured text that fits into some cells. A blank stands for the half of a wide
    character that would still fit. -/
def croppedFrom : Nat → List (Char × Nat) → List Char
  | _, [] => []
  | room, (c, w) :: rest =>
    if w ≤ room then c :: croppedFrom (room - w) rest else List.replicate room ' '

/-- A text, cut off where it does not fit into some cells. -/
def cropped (room : Nat) (cs : List Char) : List Char :=
  if width cs ≤ room then cs else croppedFrom room (measured cs)

/-- A text with characters after it that fill some cells. -/
def padded (filler : Char) (room : Nat) (cs : List Char) : List Char :=
  cs ++ List.replicate (room - width cs) filler

/-- The distance between tab stops. -/
def tabDistance : Nat := 8

/-- A measured text, from a column on, with blanks up to the next tab stop in place of tabs. -/
def withoutTabsFrom (column : Nat) : List (Char × Nat) → List Char
  | [] => []
  | (c, w) :: rest =>
    if c = '\t' then
      let blanks := tabDistance - column % tabDistance
      List.replicate blanks ' ' ++ withoutTabsFrom (column + blanks) rest
    else c :: withoutTabsFrom (column + w) rest

/-- A text with blanks up to the next tab stop in place of tabs. -/
def withoutTabs (cs : List Char) : List Char := withoutTabsFrom 0 (measured cs)

end Unmark.Panel
