import Unmark.Markdown.Emphasis
import Unmark.Markdown.Reference

/-
Module: Unmark.Markdown.Bracket
Layer: Markdown
Purpose: Links and images by their brackets. A line is read from left to right. Every opening bracket is
  kept with what is read after it; a closing bracket makes a link or an image of the innermost open
  bracket if a target or a known label is there, and plain text of it if not. A link bars the brackets
  around it from becoming links, so that no link holds another one; images may hold links.
Main exports: Item, Line, Line.add, Line.pieces, goal?
-/

namespace Unmark.Markdown

/-- What a closing bracket finds behind it: the definition of the link, the key and label if it is found
    by a label, and what follows the link. -/
structure Goal where
  definition : Definition
  reference : Option (String × String)
  rest : List Char

/-- The attributes of a link with a given definition. -/
def Definition.attributes (d : Definition) : Fields :=
  let url : Fields := match d.url with
    | some u => [("url", u)]
    | none => []
  match d.title with
  | some t => url ++ [("title", t)]
  | none => url

/-- The goal that a label gives. `own` is the text of the link if it can be a label, `cs` the text after
    its closing bracket. -/
def reference? (env : Environment) (own : Option (List Char)) (cs : List Char) : Option Goal :=
  let (label, rest) :=
    match cs with
    | '[' :: rest =>
      match label? rest with
      | some (label, rest) => (if label.isEmpty then own else some label, rest)
      | none => (own, cs)
    | _ => (own, cs)
  match label with
  | none => none
  | some label =>
    let label := String.ofList label
    let key := labelKey label
    (env.link? key).map fun d => ⟨d, some (key, label), rest⟩

/-- The goal of a link, from the text after its opening bracket and the text after its closing one. -/
def goal? (env : Environment) (source after : List Char) : Option Goal :=
  let target :=
    match after with
    | '(' :: rest => target? rest
    | _ => none
  match target with
  | some (d, rest) => some ⟨d, none, rest⟩
  | none =>
    let own :=
      match label? source with
      | some (label, rest) => if rest.length = after.length then some label else none
      | none => none
    reference? env own after

/-!
## Lines
-/

/-- A bracket that is open: whether it starts an image or a link, whether it may still become one, the
    text after it, and the pieces read after it, last one first. -/
structure Bracket where
  image : Bool
  active : Bool := true
  source : List Char
  inside : List Piece := []
deriving Inhabited

/-- A bracket as text. -/
def Bracket.mark (b : Bracket) : String := if b.image then "![" else "["

/-- A bracket after a link has been made within it: it can still become an image, and no link. -/
def Bracket.bar (b : Bracket) : Bracket := if b.image then b else { b with active := false }

/-- What can be read at one place of a line. -/
inductive Item where
  | token (t : Token)
  | run (r : Run)
  | markup (source : String)
  /-- An opening bracket, and the text after it. -/
  | opening (image : Bool) (source : List Char)
  /-- A closing bracket, and the goal it finds for the innermost open one. -/
  | closing (goal : Option Goal)

/-- The part of a line that has been read: the open brackets, the innermost first, the pieces in front of
    all of them, last one first, and whether markup has opened a link of its own. -/
structure Line where
  brackets : List Bracket := []
  base : List Piece := []
  inLink : Bool := false

/-- Whether markup opens or closes a link of its own. -/
def linkMarkup? (cs : List Char) : Option Bool :=
  let afterName (cs : List Char) : Bool :=
    match cs with
    | c :: _ => c = ' ' || c = '>'
    | [] => false
  match cs with
  | '<' :: '/' :: c :: rest => if (c = 'a' || c = 'A') && afterName rest then some false else none
  | '<' :: c :: rest => if (c = 'a' || c = 'A') && afterName rest then some true else none
  | _ => none

/-- An address in angle brackets within a link as text; every other piece stays as it is. -/
def withoutAddress : Piece → Piece
  | .token (.mk .link _ _ _ _ [.mk .text (some raw) _ _ _ _]) => .token (.leaf .text ("<" ++ raw ++ ">"))
  | p => p

/-- The link or image that a bracket becomes. -/
def Bracket.token (b : Bracket) (goal : Goal) : Token :=
  let pieces := if b.image then b.inside else b.inside.map withoutAddress
  Token.mk (if b.image then .image else .link) none goal.definition.attributes
    (goal.reference.map fun (key, _) => .str key) (goal.reference.map fun (_, label) => .str label)
    (emphasize pieces.reverse)

namespace Line

/-- A line with pieces, last one first, in its innermost place. -/
def push (line : Line) (ps : List Piece) : Line :=
  match line.brackets with
  | [] => { line with base := ps ++ line.base }
  | b :: bs => { line with brackets := { b with inside := ps ++ b.inside } :: bs }

/-- A piece of plain text. -/
def text (s : String) : Piece := .token (.leaf .text s)

/-- A line whose innermost bracket is text. -/
def flatten (line : Line) : Line :=
  match line.brackets with
  | [] => line
  | b :: bs => push { line with brackets := bs } (b.inside ++ [text b.mark])

/-- Whether the bracket may become a link or an image at this place. -/
def mayClose (line : Line) (b : Bracket) : Bool := b.active && (b.image || !line.inLink)

/-- A line with one more item. -/
def add (line : Line) : Item → Line
  | .token t => line.push [.token t]
  | .run r => line.push [.run r]
  | .markup source =>
    { line.push [.token (.leaf .inlineHtml source)] with
      inLink := (linkMarkup? source.toList).getD line.inLink }
  | .opening image source => { line with brackets := { image, source } :: line.brackets }
  | .closing none => line.flatten.push [text "]"]
  | .closing (some goal) =>
    match line.brackets with
    | [] => line
    | b :: bs =>
      push { line with brackets := if b.image then bs else bs.map Bracket.bar }
        [.token (b.token goal)]

/-- The pieces of a line that has been read to its end, in order. -/
def pieces (line : Line) : List Piece :=
  (line.brackets.flatMap (fun b => b.inside ++ [text b.mark]) ++ line.base).reverse

end Line

end Unmark.Markdown
