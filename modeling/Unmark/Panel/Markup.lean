import Unmark.Text.Case
import Unmark.Text.Space

/-
Module: Unmark.Panel.Markup
Layer: Panel
Purpose: Titles with tags in square brackets. Tags are for the looks and leave no text behind; one that closes
  has to have one that opens. A backslash in front of a tag makes it plain text.
Main exports: Markup.Stray, Markup.plain
-/

namespace Unmark.Panel.Markup

/-- A tag that closes what is not open, with its place. -/
structure Stray where
  tag : String
  place : Nat
deriving DecidableEq, Repr, Inhabited

/-- The wording of a stray tag. -/
def Stray.message (s : Stray) : String :=
  if s.tag = "/" then s!"closing tag '[/]' at position {s.place} has nothing to close"
  else s!"closing tag '[{s.tag}]' at position {s.place} doesn't match any open tag"

/-- A character that a tag can start with. -/
def startsTag (c : Char) : Bool := ('a' ≤ c && c ≤ 'z') || c = '#' || c = '/' || c = '@'

/-- The tag at the start of a text, without its brackets, and the rest of the text. -/
def tag? (cs : List Char) : Option (List Char × List Char) :=
  match cs with
  | '[' :: c :: cs =>
    let body := cs.takeWhile fun c => c ≠ '[' && c ≠ ']'
    match startsTag c, cs.drop body.length with
    | true, ']' :: rest => some (c :: body, rest)
    | _, _ => none
  | _ => none

/-- The long names of looks that have a short one. -/
def longNames : List (String × String) :=
  [("b", "bold"), ("i", "italic"), ("u", "underline"), ("s", "strike"), ("d", "dim"),
   ("r", "reverse"), ("c", "conceal"), ("o", "overline"), ("uu", "underline2")]

/-- The name by which tags are matched: lower case and long names. -/
def matchName (name : List Char) : String :=
  " ".intercalate ((Text.words (Text.lower name)).map fun w =>
    (longNames.lookup (String.ofList w)).getD (String.ofList w))

/-- A text with the bracket alone where a backslash stands in front of it. -/
def unslash : List Char → List Char
  | '\\' :: '[' :: cs => '[' :: unslash cs
  | c :: cs => c :: unslash cs
  | [] => []

/-- The open tags once a tag has closed one: the last one, or the last one of its name. -/
def close? (name : List Char) (stack : List String) : Option (List String) :=
  let name := Text.trim name
  if name.isEmpty then stack.tail?
  else
    let name := matchName name
    if stack.contains name then some (stack.erase name) else none

/-- The text of a title without its tags. `text` is the text since the last tag, last character first, `place`
    where it ends, and `stack` the open tags. Each step uses up a character, so the length is enough fuel. -/
def plainFrom : Nat → List Char → Nat → List String → List Char → Except Stray (List Char)
  | 0, text, _, _, _ => .ok (unslash text.reverse)
  | _, text, _, _, [] => .ok (unslash text.reverse)
  | fuel + 1, text, place, stack, c :: cs =>
    let slashes := ((c :: cs).takeWhile (· = '\\')).length
    match tag? ((c :: cs).drop slashes) with
    | none => plainFrom fuel (c :: text) (place + 1) stack cs
    | some (body, rest) =>
      let next := place + slashes + body.length + 2
      let shown := unslash text.reverse ++ List.replicate (slashes / 2) '\\'
      if slashes % 2 = 1 then
        (plainFrom fuel [] next stack rest).map fun cs => shown ++ '[' :: body ++ ']' :: cs
      else
        let name := body.takeWhile (· ≠ '=')
        match name with
        | '/' :: closed =>
          match close? closed stack with
          | some stack => (plainFrom fuel [] next stack rest).map (shown ++ ·)
          | none => .error ⟨String.ofList body, place + slashes⟩
        | _ => (plainFrom fuel [] next (matchName name :: stack) rest).map (shown ++ ·)

/-- The text of a title without its tags. -/
def plain (cs : List Char) : Except Stray (List Char) := plainFrom (cs.length + 1) [] 0 [] cs

end Unmark.Panel.Markup
