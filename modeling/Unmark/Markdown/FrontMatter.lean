import Unmark.Log.Record
import Unmark.Yaml.Value

/-
Module: Unmark.Markdown.FrontMatter
Layer: Markdown
Purpose: Front matter: YAML between two fences at the start of a text. The first line is a fence and nothing
  else; the closing fence may have white space around it. Front matter that is no YAML is taken off all
  the same, and its value is null.
Main exports: FrontMatter, FrontMatter.cut?, FrontMatter.extract
-/

namespace Unmark.Markdown

/-- Front matter: its text without line ends at the end, and its value. -/
structure FrontMatter where
  raw : String
  data : Data
deriving Inhabited

namespace FrontMatter

/-- The line that opens and closes front matter. -/
def fence : List Char := "---".toList

/-- Whether a line is a fence, whatever white space is around it. -/
def isFence (line : List Char) : Bool := Text.trim line == fence

/-- The lines before the first fence, and those after it. -/
def toFence? : List (List Char) → Option (List (List Char) × List (List Char))
  | [] => none
  | line :: lines =>
    if isFence line then some ([], lines)
    else (toFence? lines).map fun (before, after) => (line :: before, after)

/-- Whether a text starts with a fence on a line of its own. -/
def opens (cs : List Char) : Bool :=
  match Text.after? fence cs with
  | some ('\n' :: _) | some ('\r' :: '\n' :: _) => true
  | _ => false

/-- The source of the front matter of a text, and the text after it. -/
def cut? (cs : List Char) : Option (List Char × List Char) :=
  if opens cs then
    (toFence? ((Text.splitLines cs).drop 1)).map fun (raw, rest) => (raw.flatten, rest.flatten)
  else none

/-- A text with its front matter taken off. -/
structure Extracted where
  found : Option FrontMatter
  rest : List Char
  log : List Log.Record

/-- The text of front matter: its source without the line ends at its end. -/
def textOf (source : List Char) : String :=
  String.ofList (Text.trimEndBy (fun c => c = '\r' || c = '\n') source)

/-- The record that says that front matter was ignored, and what the reader of YAML has to say about its source. -/
def ignored (source : List Char) : Log.Record :=
  Log.Source.parsing.record .warning "Ignoring front matter that is not valid YAML"
    (some (.complaint (String.ofList source)))

/-- A text with its front matter taken off, if it has any. A scalar that looks like a value of some type
    and is none is a fault. -/
def extract (cs : List Char) : Except Yaml.Fault Extracted :=
  match cut? cs with
  | none => .ok ⟨none, cs, []⟩
  | some (source, rest) =>
    match Yaml.load source with
    | .ok data => .ok ⟨some ⟨textOf source, data⟩, rest, []⟩
    | .error .invalid => .ok ⟨some ⟨textOf source, .null⟩, rest, [ignored source]⟩
    | .error f => .error f

end FrontMatter

end Unmark.Markdown
