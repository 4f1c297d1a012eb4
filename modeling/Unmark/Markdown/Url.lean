import Unmark.Markdown.Entity
import Unmark.Text.Punctuation
import Unmark.Text.Quoted

/-
Module: Unmark.Markdown.Url
Layer: Markdown
Purpose: Backslash escapes, and the written form of URLs. A backslash in front of an ASCII mark or symbol
  stands for that character. A URL has its escapes and its character references replaced; characters
  outside a safe set are then written as the hexadecimal codes of their bytes.
Main exports: unescape, encodeUrl, destination
-/

namespace Unmark.Markdown

/-- A text with its backslash escapes replaced. -/
def unescape : List Char → List Char
  | [] => []
  | [c] => [c]
  | '\\' :: c :: cs => if Text.isAsciiPunctuation c then c :: unescape cs else '\\' :: unescape (c :: cs)
  | b :: c :: cs => b :: unescape (c :: cs)
termination_by cs => cs.length

/-- Characters that stand for themselves in a URL. -/
def isSafe (c : Char) : Bool :=
  ('a' ≤ c && c ≤ 'z') || ('A' ≤ c && c ≤ 'Z') || ('0' ≤ c && c ≤ '9')
    || "_.-~:/?#@!$&()*+,;=%".toList.contains c

/-- The written form of one byte that does not stand for itself. -/
def percent (b : UInt8) : List Char :=
  let digit (n : Nat) : Char := if n < 10 then Char.ofNat (48 + n) else Char.ofNat (55 + n)
  ['%', digit (b.toNat / 16), digit (b.toNat % 16)]

/-- A URL with every unsafe character written as the codes of its bytes. -/
def encodeUrl (cs : List Char) : List Char :=
  cs.flatMap fun c =>
    if isSafe c then [c] else (String.singleton c).toUTF8.toList.flatMap percent

/-- The URL that a link destination stands for, once its escapes are replaced. -/
def urlText (cs : List Char) : String := String.ofList (encodeUrl (Entity.decodeChars cs))

/-- The URL that a link destination stands for. -/
def destination (cs : List Char) : String := urlText (unescape cs)

end Unmark.Markdown
