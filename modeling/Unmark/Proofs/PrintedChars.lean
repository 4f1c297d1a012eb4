import Unmark.Proofs.Descendants
import Unmark.Proofs.RenderedBody

/-
Module: Unmark.Proofs.PrintedChars
Layer: Proofs
Purpose: Where the characters of a rendering come from. A node prints the text that it brings along and what its
  children come to; a link and struck-through text put them between brackets, the latter behind the phrase of
  the options; and the gap between two neighbours is the separator of the options or nothing, which the options
  have no part in deciding. There are no other characters.
Main exports: Text.Avoids, Node.ownText, chars, toList_of_render, brackets, parted, chars_gapAfter,
  chars_textOf_link, chars_textOf_struck, chars_textOf_unmarked
-/

namespace Unmark

/-- No character of a text is among some characters. -/
def Text.Avoids (s : String) (cs : List Char) : Prop := ∀ c ∈ s.toList, c ∉ cs

-- The instance is named, since one that goes through all characters there are would fit as well.
instance (s : String) (cs : List Char) : Decidable (Text.Avoids s cs) :=
  List.decidableBAll (fun c => c ∉ cs) s.toList

/-- The text that a node brings along and that is printed as it is: the value of text and of code, and the URL of
    a link. -/
def Node.ownText (n : Node) : String :=
  match n.kind with
  | .tag .text | .tag .inlineCode | .tag .code => n.payload.value.getD ""
  | .tag .link => n.payload.url.getD ""
  | _ => ""

namespace PlainText

/-! ### The characters of fragments -/

/-- The characters of fragments, in order. -/
def chars (fs : List Fragment) : List Char := fs.flatMap fun f => f.text.toList

@[simp] theorem chars_nil : chars [] = [] := rfl

@[simp] theorem chars_cons (f : Fragment) (fs : List Fragment) : chars (f :: fs) = f.text.toList ++ chars fs :=
  List.flatMap_cons

@[simp] theorem chars_append (fs gs : List Fragment) : chars (fs ++ gs) = chars fs ++ chars gs :=
  List.flatMap_append

theorem toList_join_text (fs : List Fragment) : (String.join (fs.map Fragment.text)).toList = chars fs := by
  rw [String.toList_join, List.flatMap_map, chars]

/-- The characters of a rendering are those of the body of the tree. -/
theorem toList_of_render {o : Options} {tree : Node} {text : String}
    (rendered : (render o tree).text = .ok text) : text.toList = chars (body o tree) := by
  rw [← ((render_text_eq_ok_iff o).1 rendered).2, toList_join_text]

/-! ### Gaps -/

/-- Whether there is a gap between two neighbours. -/
def parted (parent : Kind) (left : Option Kind) (right : Kind) : Bool :=
  parent.isBlockParent && left.any fun l => l.isBlockRuled || right.isBlockRuled

theorem chars_gapAfter (o : Options) (parent : Kind) (left : Option Kind) (right : Kind) :
    chars (gapAfter o parent left right) =
      if parted parent left right then o.blockSeparator.toList else [] := by
  cases left with
  | none => simp [gapAfter, parted]
  | some l =>
      rw [gapAfter, gap, parted, Option.any_some]
      split <;> simp

/-! ### The text of a node -/

/-- The characters that links and struck-through text are marked with. -/
def brackets : List Char := ['[', ']', '(', ')']

/-- What the children of a node come to. -/
def charsBelow (o : Options) (n : Node) : List Char := chars (bodyFrom o n.kind none n.children)

section Text

variable (o : Options) {n : Node}

theorem chars_textOf_link (link : n.kind = .tag .link) :
    chars (textOf o n) = '[' :: charsBelow o n ++ ']' :: '(' :: n.ownText.toList ++ [')'] := by
  obtain ⟨k, p, md, cs⟩ := n
  obtain rfl : k = .tag .link := link
  simp [textOf, charsBelow, Node.ownText]

theorem chars_textOf_struck (struck : n.kind = .tag .strikethrough) :
    chars (textOf o n) = '(' :: o.strikethroughPhrase.toList ++ charsBelow o n ++ [')'] := by
  obtain ⟨k, p, md, cs⟩ := n
  obtain rfl : k = .tag .strikethrough := struck
  simp [textOf, charsBelow]

theorem chars_textOf_unmarked (link : n.kind ≠ .tag .link) (struck : n.kind ≠ .tag .strikethrough) :
    chars (textOf o n) = n.ownText.toList ++ charsBelow o n := by
  obtain ⟨k, p, md, cs⟩ := n
  cases k with
  | foreign name fresh => simp [textOf, charsBelow, Node.ownText]
  | tag t =>
      cases t
      case link => exact absurd rfl link
      case strikethrough => exact absurd rfl struck
      all_goals simp [textOf, charsBelow, Node.ownText]

end Text

end PlainText

end Unmark
