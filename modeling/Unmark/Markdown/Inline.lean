import Unmark.Markdown.Bracket
import Unmark.Markdown.Html

/-
Module: Unmark.Markdown.Inline
Layer: Markdown
Purpose: The text of paragraphs, headings and cells. It is read from left to right. At each place the
  first construct that can start there is tried; a character that starts none is text. Emphasis is settled
  last, over the pieces that the other constructs leave, and within a link when its bracket closes.
  Struck-out text is read by itself.

  The scan is bounded by fuel: every step reads a character, and what is read by itself is part of the
  text around it.
Main exports: Inline.Context, Inline.tokens
-/

namespace Unmark.Markdown.Inline

/-- What the reading of a text depends on. -/
structure Context where
  env : Environment
  strikethrough : Bool
  notes : Bool
  inLink : Bool := false

/-!
## Constructs that hold plain text
-/

/-- Escaped characters, as many as there are in a row, and what follows them. -/
def escapes : List Char → List Char × List Char
  | '\\' :: c :: rest =>
    if Text.isAsciiPunctuation c then
      let (more, rest) := escapes rest
      (c :: more, rest)
    else ([], '\\' :: c :: rest)
  | rest => ([], rest)

/-- The text before a run of exactly `n` backticks together with that run, and what follows. `run` is the
    number of backticks that were just read. -/
def codeThrough? (n run : Nat) : List Char → Option (List Char × List Char)
  | [] => if run = n then some ([], []) else none
  | c :: rest =>
    if c = '\x60' then (codeThrough? n (run + 1) rest).map fun (text, rest) => (c :: text, rest)
    else if run = n then some ([], c :: rest)
    else (codeThrough? n 0 rest).map fun (text, rest) => (c :: text, rest)

/-- The content of a code span. Line ends count as spaces, and one space is cut at both ends if there
    is one at both and the content holds more than white space. -/
def codeText (cs : List Char) : List Char :=
  let text := cs.map fun c => if c = '\n' then ' ' else c
  if text.all Text.isSpace then text
  else if text.head? == some ' ' && text.getLast? == some ' ' then (text.drop 1).dropLast
  else text

/-- A code span and what follows it, from the text at its first backtick. -/
def codeSpan? (cs : List Char) : Option (Token × List Char) :=
  let n := (cs.takeWhile (· = '\x60')).length
  match codeThrough? n 0 (cs.drop n) with
  | none => none
  | some (text, rest) =>
    let content := text.take (text.length - n)
    some (.leaf .codeSpan (String.ofList (codeText content)), rest)

/-- Two tildes and what follows them, if that is no third one. -/
def strikeMarks? (cs : List Char) : Option (List Char) :=
  match cs with
  | '~' :: '~' :: rest => if rest.head? == some '~' then none else some rest
  | _ => none

/-- Struck-out text up to its end, and what follows. It ends before two tildes, after a character other
    than a tilde and white space or after an escaped tilde. `free` says that no backslash stands in front
    that escapes the next character. -/
def struck? (free : Bool) : List Char → Option (List Char × List Char)
  | [] => none
  | c :: cs =>
    let escaped :=
      match cs with
      | '~' :: rest => if c = '\\' ∧ free then strikeMarks? rest else none
      | _ => none
    match escaped with
    | some rest => some (['\\', '~'], rest)
    | none =>
      match if c = '~' ∨ Text.isSpace c then none else strikeMarks? cs with
      | some rest => some ([c], rest)
      | none => (struck? (c ≠ '\\' || !free) cs).map fun (text, rest) => (c :: text, rest)

/-!
## Links without brackets
-/

/-- The scheme of a URL with its colon at the start of a text, and what follows. -/
def scheme? (cs : List Char) : Option (List Char × List Char) :=
  match cs with
  | c :: rest =>
    if Html.isLetter c then
      let more := rest.takeWhile fun d => Html.isAlphanumeric d || d = '.' || d = '+' || d = '-'
      match rest.drop more.length with
      | ':' :: tail =>
        if 1 ≤ more.length ∧ more.length ≤ 31 then some (c :: more ++ [':'], tail) else none
      | _ => none
    else none
  | [] => none

/-- A URL in angle brackets, from the text after the opening one. -/
def autoUrl? (cs : List Char) : Option (List Char × List Char) :=
  match scheme? cs with
  | none => none
  | some (scheme, rest) =>
    let body := rest.takeWhile fun c => ' ' < c && c ≠ '<' && c ≠ '>'
    match rest.drop body.length with
    | '>' :: tail => some (scheme ++ body, tail)
    | _ => none

/-- Whether a text is a part of a host name: letters, digits and hyphens, 63 at most, with no hyphen at
    either end. -/
def isHostPart (cs : List Char) : Bool :=
  cs.all (fun c => Html.isAlphanumeric c || c = '-') && cs.length ≤ 63 &&
    ((cs.head?.map Html.isAlphanumeric).getD false) &&
    ((cs.getLast?.map Html.isAlphanumeric).getD false)

/-- Whether a character may stand in front of the sign of a mail address. -/
def isMailChar (c : Char) : Bool :=
  Html.isAlphanumeric c || ".!#$%&'*+/=?^_\x60\x7b|\x7d~-".toList.contains c

/-- A mail address in angle brackets, from the text after the opening one. -/
def autoMail? (cs : List Char) : Option (List Char × List Char) :=
  let user := cs.takeWhile isMailChar
  match cs.drop user.length with
  | '@' :: rest =>
    let host := rest.takeWhile (· ≠ '>')
    match rest.drop host.length with
    | '>' :: tail =>
      if !user.isEmpty && (Text.splitAt '.' host).all isHostPart then
        some (user ++ '@' :: host, tail)
      else none
    | _ => none
  | _ => none

/-- The link that a URL or address in angle brackets stands for. Within a link it is text. -/
def autoLink (inLink : Bool) (scheme text : List Char) : Token :=
  if inLink then .leaf .text (String.ofList ('<' :: text ++ ['>']))
  else
    .mk .link none [("url", .str (urlText (scheme ++ text)))] none none
      [.leaf .text (String.ofList text)]

/-!
## The scan
-/

/-- The text read so far, last character first, as a piece. -/
def textPiece (text : List Char) : List Piece :=
  if text.isEmpty then [] else [Line.text (String.ofList text.reverse)]

/-- A run of marks at the start of a text. -/
def runAt (before : Char) (mark : Char) (cs : List Char) : Run × List Char :=
  let length := (cs.takeWhile (· = mark)).length
  let rest := cs.drop length
  (Run.of mark length before (rest.headD ' '), rest)

/-- A line break or a soft one, at blanks and a line end or at a backslash and a line end. -/
def lineBreak? (cs : List Char) : Option (Token × List Char) :=
  match cs with
  | '\\' :: '\n' :: rest => some (.parent .lineBreak [], rest.dropWhile Text.isSpace)
  | _ =>
    let spaces := (cs.takeWhile (· = ' ')).length
    match cs.drop spaces with
    | '\n' :: rest =>
      let type := if 2 ≤ spaces then TokenType.lineBreak else .softBreak
      some (.parent type [], rest.dropWhile Text.isSpace)
    | _ => none

/-- A construct in angle brackets, from the text at the opening one. -/
def angle? (inLink : Bool) (cs : List Char) : Option (Item × List Char) :=
  match autoUrl? (cs.drop 1) with
  | some (text, rest) => some (.token (autoLink inLink [] text), rest)
  | none =>
    match autoMail? (cs.drop 1) with
    | some (text, rest) => some (.token (autoLink inLink "mailto:".toList text), rest)
    | none =>
      (Html.inlineMarkup? cs).map fun rest =>
        (.markup (String.ofList (cs.take (cs.length - rest.length))), rest)

/-- A footnote reference, from the text at its bracket. One that is not defined is text. -/
def note? (ctx : Context) (cs : List Char) : Option (Item × List Char) :=
  if ctx.notes then
    (noteKey? cs).map fun (key, rest) =>
      let name := labelKey (String.ofList key)
      let token :=
        if (ctx.env.note? name).isSome then Token.leaf .footnoteRef name
        else .leaf .text (String.ofList (cs.take (cs.length - rest.length)))
      (.token token, rest)
  else none

/-- The closing of the innermost bracket, from the text after the closing one. -/
def closing? (ctx : Context) (line : Line) (rest : List Char) : Option (Item × List Char) :=
  line.brackets.head?.map fun b =>
    match if line.mayClose b then goal? ctx.env b.source rest else none with
    | some goal => (.closing (some goal), goal.rest)
    | none => (.closing none, rest)

mutual

/-- The tokens of a text. -/
def read (fuel : Nat) (ctx : Context) (cs : List Char) : List Token :=
  match fuel with
  | 0 => []
  | fuel + 1 =>
    if cs.isEmpty then [.leaf .text ""]
    else emphasize (scan fuel ctx ' ' [] { inLink := ctx.inLink } cs).pieces

/-- A line read to the end of its text. `before` is the character in front of the text ahead, `text` what
    was read as plain text, last character first. -/
def scan (fuel : Nat) (ctx : Context) (before : Char) (text : List Char) (line : Line) (cs : List Char) :
    Line :=
  match fuel with
  | 0 => line.push (textPiece text)
  | fuel + 1 =>
    match cs with
    | [] => line.push (textPiece text)
    | c :: rest =>
      match item? fuel ctx line before c rest with
      | none => scan fuel ctx c (c :: text) line rest
      | some (item, rest) =>
        let last := (cs.take (cs.length - rest.length)).getLastD c
        scan fuel ctx last [] ((line.push (textPiece text)).add item) rest

/-- The item that starts at a character, and what follows it. -/
def item? (fuel : Nat) (ctx : Context) (line : Line) (before c : Char) (rest : List Char) :
    Option (Item × List Char) :=
  match fuel with
  | 0 => none
  | fuel + 1 =>
    let one (found : Option (Token × List Char)) : Option (Item × List Char) :=
      found.map fun (token, rest) => (.token token, rest)
    match c with
    | '\\' =>
      match escapes (c :: rest) with
      | ([], _) => one (lineBreak? (c :: rest))
      | (text, rest) => one (some (.leaf .text (String.ofList text), rest))
    | ' ' | '\n' => one (lineBreak? (c :: rest))
    | '\x60' =>
      match codeSpan? (c :: rest) with
      | some found => one (some found)
      | none =>
        let ticks := (c :: rest).takeWhile (· = '\x60')
        one (some (.leaf .text (String.ofList ticks), (c :: rest).drop ticks.length))
    | '*' | '_' =>
      let (run, rest) := runAt before c (c :: rest)
      some (.run run, rest)
    | '~' =>
      if ctx.strikethrough then one (strikethrough? fuel { ctx with inLink := line.inLink } rest)
      else none
    | '[' =>
      match note? ctx (c :: rest) with
      | some found => some found
      | none => if line.inLink then none else some (.opening false rest, rest)
    | '!' =>
      match rest with
      | '[' :: rest => some (.opening true rest, rest)
      | _ => none
    | ']' => closing? ctx line rest
    | '<' => angle? line.inLink (c :: rest)
    | _ => none

/-- Struck-out text, from the text after its first tilde. -/
def strikethrough? (fuel : Nat) (ctx : Context) (cs : List Char) : Option (Token × List Char) :=
  match fuel with
  | 0 => none
  | fuel + 1 =>
    match cs with
    | '~' :: c :: rest =>
      if c = '~' ∨ Text.isSpace c then none
      else
        (struck? true (c :: rest)).map fun (text, rest) =>
          (.parent .strikethrough (read fuel ctx text), rest)
    | _ => none

end

/-- The tokens of a text. -/
def tokens (ctx : Context) (cs : List Char) : List Token := read (4 * cs.length + 4) ctx cs

end Unmark.Markdown.Inline
