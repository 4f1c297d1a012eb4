import Unmark.PlainText.Render

/-
Module: Unmark.PlainText.Body
Layer: PlainText
Purpose: The meaning of a tree as plain text, said without a traversal: the text of a node is put
  together from the texts of its children and the gaps between neighbours. A gap depends only on the
  kinds of the parent and of the two neighbours, and is one separator or nothing. Beside it stands the
  first defect of a tree in the order of the traversal.
Main exports: gap, textOf, body, firstDefect
-/

namespace Unmark.PlainText

/-- What stands between two neighbouring children: one separator when the parent separates its blocks
    and one of the two is a block, and nothing otherwise. -/
def gap (o : Options) (parent left right : Kind) : List Fragment :=
  if parent.isBlockParent && (left.isBlockRuled || right.isBlockRuled) then
    [⟨.separator, o.blockSeparator⟩]
  else []

/-- The gap in front of a child, when it has a neighbour to its left. -/
def gapAfter (o : Options) (parent : Kind) (left : Option Kind) (right : Kind) : List Fragment :=
  match left with
  | none => []
  | some left => gap o parent left right

mutual

/-- The fragments of a node: its own text, and what its children come to inside its marks. -/
def textOf (o : Options) : Node → List Fragment
  | .mk k p _ cs =>
    let inner := bodyFrom o k none cs
    match k with
    | .tag .text | .tag .inlineCode | .tag .code => ⟨.literal, p.value.getD ""⟩ :: inner
    | .tag .link =>
      ⟨.mark, "["⟩ :: inner
        ++ [⟨.mark, "]"⟩, ⟨.mark, "("⟩, ⟨.mark, p.url.getD ""⟩, ⟨.mark, ")"⟩]
    | .tag .strikethrough => ⟨.mark, "("⟩ :: ⟨.mark, o.strikethroughPhrase⟩ :: inner ++ [⟨.mark, ")"⟩]
    | _ => inner

/-- The fragments of the children of a node of kind `parent` that follow a neighbour of kind `left`. -/
def bodyFrom (o : Options) (parent : Kind) (left : Option Kind) : List Node → List Fragment
  | [] => []
  | c :: cs =>
    gapAfter o parent left c.kind ++ textOf o c ++ bodyFrom o parent (some c.kind) cs

end

/-- The fragments of a document: what the children of its root come to. -/
def body (o : Options) (root : Node) : List Fragment := bodyFrom o root.kind none root.children

mutual

/-- The defect that stops the rendering of a node: its own missing text, found on entering it, then one
    below it, then its own missing URL, found on leaving it. -/
def defectOf : Node → Option RenderError
  | .mk k p _ cs =>
    match k with
    | .tag .text => if p.value.isNone then some ⟨.text, "value"⟩ else defectIn cs
    | .tag .inlineCode => if p.value.isNone then some ⟨.inlineCode, "value"⟩ else defectIn cs
    | .tag .code => if p.value.isNone then some ⟨.code, "value"⟩ else defectIn cs
    | .tag .link => (defectIn cs).or (if p.url.isNone then some ⟨.link, "url"⟩ else none)
    | _ => defectIn cs

/-- The first defect in a list of nodes. -/
def defectIn : List Node → Option RenderError
  | [] => none
  | n :: ns => (defectOf n).or (defectIn ns)

end

/-- The first defect below the root of a document. -/
def firstDefect (root : Node) : Option RenderError := defectIn root.children

end Unmark.PlainText
