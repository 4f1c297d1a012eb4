import Unmark.Text.Case
import Unmark.Text.HiddenTable

/-
Module: Unmark.Text.Quoted
Layer: Text
Purpose: Texts as messages show them, between quotes. Single quotes are used, unless the text has a
  single quote in it and no double quote. Backslashes, the quote in use and characters that show
  nothing are escaped, the latter by their code in two, four or eight hexadecimal digits.
Main exports: quoted
-/

namespace Unmark.Text

/-- The lower-case hexadecimal digits of a number, `width` of them. -/
def hexDigits : Nat → Nat → List Char
  | 0, _ => []
  | width + 1, n =>
    let d := n % 16
    hexDigits width (n / 16) ++ [if d < 10 then Char.ofNat (48 + d) else Char.ofNat (87 + d)]

/-- Whether a character shows nothing of its own. -/
def isHidden (c : Char) : Bool := inRanges hiddenRanges c.toNat

/-- The form of one character inside quotes. -/
def quotedChar (quote c : Char) : List Char :=
  if c = quote ∨ c = '\\' then ['\\', c]
  else if c = '\n' then ['\\', 'n']
  else if c = '\r' then ['\\', 'r']
  else if c = '\t' then ['\\', 't']
  else if isHidden c then
    if c.toNat < 0x100 then '\\' :: 'x' :: hexDigits 2 c.toNat
    else if c.toNat < 0x10000 then '\\' :: 'u' :: hexDigits 4 c.toNat
    else '\\' :: 'U' :: hexDigits 8 c.toNat
  else [c]

/-- The quote that a text is put in. -/
def quoteFor (cs : List Char) : Char :=
  if cs.contains '\x27' && !cs.contains '\x22' then '\x22' else '\x27'

/-- A text between quotes. -/
def quoted (s : String) : String :=
  let q := quoteFor s.toList
  String.ofList (q :: s.toList.flatMap (quotedChar q) ++ [q])

end Unmark.Text
