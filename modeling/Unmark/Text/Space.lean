/-
Module: Unmark.Text.Space
Layer: Text
Purpose: White space and line ends. White space is the Unicode notion together with the four
  information separators; a line ends at any of the eleven line boundaries of the standard text model,
  of which a carriage return followed by a line feed is one. Texts are lists of characters here.
Main exports: isSpace, trim, trimStart, trimEnd, words, splitLines
-/

namespace Unmark.Text

/-- White space. -/
def isSpace (c : Char) : Bool :=
  let n := c.toNat
  (9 ≤ n && n ≤ 13) || (28 ≤ n && n ≤ 32) || n == 0x85 || n == 0xA0 || n == 0x1680
    || (0x2000 ≤ n && n ≤ 0x200A) || n == 0x2028 || n == 0x2029 || n == 0x202F || n == 0x205F
    || n == 0x3000

/-- A text without the leading characters of a class. -/
def trimStartBy (p : Char → Bool) (cs : List Char) : List Char := cs.dropWhile p

/-- A text without the trailing characters of a class. -/
def trimEndBy (p : Char → Bool) (cs : List Char) : List Char := (cs.reverse.dropWhile p).reverse

/-- A text without the leading and trailing characters of a class. -/
def trimBy (p : Char → Bool) (cs : List Char) : List Char := trimEndBy p (trimStartBy p cs)

/-- A text without white space around it. -/
def trim (cs : List Char) : List Char := trimBy isSpace cs

/-- The words of a text: its longest runs of characters other than white space. `word` holds the
    characters of the run being read, last one first. -/
def wordsFrom (word : List Char) : List Char → List (List Char)
  | [] => if word.isEmpty then [] else [word.reverse]
  | c :: cs =>
    if isSpace c then
      if word.isEmpty then wordsFrom [] cs else word.reverse :: wordsFrom [] cs
    else wordsFrom (c :: word) cs

/-- The words of a text. -/
def words (cs : List Char) : List (List Char) := wordsFrom [] cs

/-- Whether a character ends a line by itself. -/
def isLineEnd (c : Char) : Bool :=
  let n := c.toNat
  (10 ≤ n && n ≤ 13) || (28 ≤ n && n ≤ 30) || n == 0x85 || n == 0x2028 || n == 0x2029

/-- The lines of a text, each with its line end. `line` holds the characters of the line being read,
    last one first. -/
def splitLinesFrom (line : List Char) : List Char → List (List Char)
  | [] => if line.isEmpty then [] else [line.reverse]
  | '\r' :: '\n' :: cs => ('\n' :: '\r' :: line).reverse :: splitLinesFrom [] cs
  | c :: cs =>
    if isLineEnd c then (c :: line).reverse :: splitLinesFrom [] cs
    else splitLinesFrom (c :: line) cs

/-- The lines of a text, each with its line end; the last line may have none. -/
def splitLines (cs : List Char) : List (List Char) := splitLinesFrom [] cs

/-- Texts put one after the other with a separator between neighbours. -/
def join (sep : List Char) : List (List Char) → List Char
  | [] => []
  | [x] => x
  | x :: xs => x ++ sep ++ join sep xs

/-- What follows a given start of a text. -/
def after? : List Char → List Char → Option (List Char)
  | [], cs => some cs
  | p :: ps, c :: cs => if p = c then after? ps cs else none
  | _ :: _, [] => none

/-- What precedes and what follows the first place where `needle` stands in a text. -/
def breakOn? (needle : List Char) (cs : List Char) : Option (List Char × List Char) :=
  match after? needle cs with
  | some rest => some ([], rest)
  | none =>
    match cs with
    | [] => none
    | c :: cs => (breakOn? needle cs).map fun (before, rest) => (c :: before, rest)

/-- The pieces of a text between the places where a character stands. There is one piece more than
    there are such places. -/
def splitAt (sep : Char) : List Char → List (List Char)
  | [] => [[]]
  | c :: cs =>
    if c = sep then [] :: splitAt sep cs
    else
      match splitAt sep cs with
      | [] => [[c]]
      | piece :: pieces => (c :: piece) :: pieces

end Unmark.Text
