import Unmark.Markdown.Block
import Unmark.Markdown.Label
import Unmark.Markdown.Url

/-
Module: Unmark.Markdown.Reference
Layer: Markdown
Purpose: The parts of links: labels, destinations and titles, and the two places where they come together,
  the definition of a link reference and the target of a link within a line. Footnote definitions are
  here too. Each reader takes the text ahead and gives what it read and what follows.
Main exports: label?, title?, target?, linkDefinition, noteKey?, noteDefinition
-/

namespace Unmark.Markdown

/-- A label and its closing bracket, from the text after its opening bracket. A label has no bracket
    without a backslash in front of it, and `most` characters and escapes at most. -/
def labelWithin : Nat → List Char → Option (List Char × List Char)
  | _, [] => none
  | _, ']' :: rest => some ([], rest)
  | 0, _ => none
  | most + 1, '\\' :: c :: rest =>
    if c = '\n' then none
    else (labelWithin most rest).map fun (label, rest) => ('\\' :: c :: label, rest)
  | most + 1, c :: rest =>
    if c = '[' ∨ c = '\\' then none
    else (labelWithin most rest).map fun (label, rest) => (c :: label, rest)

/-- A label and its closing bracket. -/
def label? (cs : List Char) : Option (List Char × List Char) := labelWithin 999 cs

/-- Whether a character may stand between the parts of a link. -/
def isGap (c : Char) : Bool := isBlank c || c = '\n' || c = '\r' || c = '\x0c'

/-- What follows blanks with at most one line end among them. -/
def skipBreak (cs : List Char) : List Char :=
  match cs.dropWhile isBlank with
  | '\n' :: rest => rest.dropWhile isBlank
  | rest => rest

/-- A destination in angle brackets, from the text after the opening one. -/
def angled? : List Char → Option (List Char × List Char)
  | [] => none
  | '>' :: rest => some ([], rest)
  | '\\' :: c :: rest =>
    if c = '\n' then none else (angled? rest).map fun (url, rest) => ('\\' :: c :: url, rest)
  | c :: rest =>
    if c = '<' ∨ c = '\n' ∨ c = '\\' ∨ c = '\x00' then none
    else (angled? rest).map fun (url, rest) => (c :: url, rest)

/-- A destination without angle brackets in a link: up to a space, a control character, or a parenthesis
    that closes none opened in the destination. `depth` counts those that are open. -/
def bareWithin (depth : Nat) : List Char → Option (List Char × List Char)
  | [] => if depth = 0 then some ([], []) else none
  | '\\' :: c :: rest =>
    if Text.isAsciiPunctuation c then
      (bareWithin depth rest).map fun (url, rest) => ('\\' :: c :: url, rest)
    else (bareWithin depth (c :: rest)).map fun (url, rest) => ('\\' :: url, rest)
  | '(' :: rest => (bareWithin (depth + 1) rest).map fun (url, rest) => ('(' :: url, rest)
  | ')' :: rest =>
    match depth with
    | 0 => some ([], ')' :: rest)
    | depth + 1 => (bareWithin depth rest).map fun (url, rest) => (')' :: url, rest)
  | c :: rest =>
    if c ≤ ' ' ∨ c = '\x7f' then (if depth = 0 then some ([], c :: rest) else none)
    else (bareWithin depth rest).map fun (url, rest) => (c :: url, rest)
termination_by cs => cs.length

/-- The destination of a link. -/
def linkDestination? (cs : List Char) : Option (List Char × List Char) :=
  match cs.dropWhile isGap with
  | '<' :: rest => angled? rest
  | rest => bareWithin 0 rest

/-- The destination of a definition: in angle brackets, or up to white space and not empty. -/
def definitionDestination? (cs : List Char) : Option (List Char × List Char) :=
  match skipBreak cs with
  | '<' :: rest => angled? rest
  | rest =>
    let url := rest.takeWhile (!Text.isSpace ·)
    if url.isEmpty then none else some (url, rest.drop url.length)

/-- The inside of a title and its closing mark. The mark closes at its first place without a backslash in
    front of it, and if there is none at its last place at all. No character of `barred` stands in it. -/
def titleBody? (barred : List Char) (close : Char) : List Char → Option (List Char × List Char)
  | [] => none
  | '\\' :: c :: rest =>
    if Text.isAsciiPunctuation c then
      match titleBody? barred close rest with
      | some (body, rest) => some ('\\' :: c :: body, rest)
      | none => if c = close then some (['\\'], rest) else none
    else (titleBody? barred close (c :: rest)).map fun (body, rest) => ('\\' :: body, rest)
  | c :: rest =>
    if c = close then some ([], rest)
    else if barred.contains c then none
    else (titleBody? barred close rest).map fun (body, rest) => (c :: body, rest)
termination_by cs => cs.length

/-- A title, with white space in front of it: in double or single quotes or in parentheses. -/
def title? (cs : List Char) : Option (List Char × List Char) :=
  match cs with
  | [] => none
  | c :: _ =>
    if isGap c then
      match cs.dropWhile isGap with
      | '\x22' :: rest => titleBody? ['\x00'] '\x22' rest
      | '\x27' :: rest => titleBody? ['\x00'] '\x27' rest
      | '(' :: rest => titleBody? ['\x00', '('] ')' rest
      | _ => none
    else none

/-- The definition with a destination and a title as they are written. -/
def written (label : Option (List Char)) (url title : List Char) : Definition :=
  { label := label.map String.ofList
    url := some (.str (destination url))
    title := if title.isEmpty then none else some (.str (String.ofList (unescape title))) }

/-- The destination and title of a link, from the text after its opening parenthesis. -/
def target? (cs : List Char) : Option (Definition × List Char) :=
  match linkDestination? cs with
  | none => none
  | some (url, afterUrl) =>
    let (title, rest) := (title? afterUrl).getD ([], afterUrl)
    match rest.dropWhile isGap with
    | ')' :: rest => some (written none url title, rest)
    | _ => none

/-- What follows the end of a line, if nothing but blanks is left of it. -/
def lineEnd? (cs : List Char) : Option (List Char) :=
  match cs.dropWhile isBlank with
  | '\n' :: rest => some rest
  | _ => none

/-- A text up to the next blank line. -/
def toBlankLine (cs : List Char) : List Char :=
  match linesOf cs with
  | [] => []
  | line :: lines => line ++ (lines.takeWhile (!isBlankFullLine ·)).flatten

/-- The title of a definition, which ends its line. A title that does not is none. -/
def definitionTitle? (cs : List Char) : Option (List Char × List Char) :=
  let within := toBlankLine cs
  match title? within with
  | none => none
  | some (title, rest) =>
    (lineEnd? (cs.drop (within.length - rest.length))).map fun rest => (title, rest)

/-- The definition of a link reference, from the text after the colon. -/
def definitionTail? (label cs : List Char) : Option (Definition × List Char) :=
  match definitionDestination? cs with
  | none => none
  | some (url, rest) =>
    match definitionTitle? rest with
    | some (title, rest) => some (written (some label) url title, rest)
    | none => (lineEnd? rest).map fun rest => (written (some label) url [], rest)

/-- A link reference definition. After paragraph text its line belongs to the paragraph. -/
def linkDefinition (s : Scan) : Attempt :=
  match dropSpaces 3 s.ahead with
  | '[' :: rest =>
    match label? rest with
    | some (label, ':' :: rest) =>
      match s.continueParagraph? with
      | some s => .read s
      | none =>
        let key := labelKey (String.ofList label)
        if key.isEmpty then .refused
        else
          match definitionTail? label rest with
          | none => .refused
          | some (d, ahead) => .read { s.goOn ahead with env := s.env.addLink key d }
    | _ => .absent
  | _ => .absent

/-!
## Footnotes
-/

/-- The key of a footnote and its closing bracket, from the text after the caret: characters other than
    brackets and white space, or escapes, `most` of them at most. -/
def noteKeyWithin : Nat → List Char → Option (List Char × List Char)
  | _, [] => none
  | _, ']' :: rest => some ([], rest)
  | 0, _ => none
  | most + 1, '\\' :: c :: rest =>
    if c = '\n' then none
    else (noteKeyWithin most rest).map fun (key, rest) => ('\\' :: c :: key, rest)
  | most + 1, c :: rest =>
    if c = '[' ∨ c = '\\' ∨ Text.isSpace c then none
    else (noteKeyWithin most rest).map fun (key, rest) => (c :: key, rest)

/-- The key of a footnote in its brackets, and what follows. -/
def noteKey? (cs : List Char) : Option (List Char × List Char) :=
  match cs with
  | '[' :: '^' :: rest =>
    match noteKeyWithin 500 rest with
    | some ([], _) => none
    | k => k
  | _ => none

/-- The end of a footnote's text: it goes on with lines that are indented by one to four spaces more than
    its first line, and with empty lines. The fuel is the number of lines. -/
def afterNote (indent : Nat) : Nat → List (List Char) → List (List Char)
  | 0, lines => lines
  | fuel + 1, lines =>
    match lines with
    | [] => []
    | line :: rest =>
      let spaces := (line.takeWhile (· = ' ')).length
      if indent < spaces ∧ spaces ≤ indent + 4 ∧ line.getLast? = some '\n' then
        afterNote indent fuel (rest.dropWhile (· == ['\n']))
      else lines

/-- A footnote definition. -/
def noteDefinition (s : Scan) : Attempt :=
  let (indent, rest) := leadingSpaces 3 s.ahead
  match noteKey? rest with
  | some (key, ':' :: c :: rest) =>
    if isBlank c ∨ c = '\n' then
      let lines := linesOf rest
      let later := (lines.drop 1).dropWhile (· == ['\n'])
      let ahead := (afterNote indent lines.length later).flatten
      let text := rest.take (rest.length - ahead.length)
      .read { s.goOn ahead with env := s.env.addNote (labelKey (String.ofList key)) text }
    else .absent
  | _ => .absent

end Unmark.Markdown
