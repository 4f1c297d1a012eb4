import Unmark.Tree.Build
import Unmark.Proofs.RenderedBody

/-
Module: Unmark.Proofs.WrappedRuns
Layer: Proofs
Purpose: Nodes that leave no trace of themselves. On the events of a silent kind nothing is written and nothing
  fails (`isSilent_iff`): emphasis, images, tables, and every foreign kind. Siblings among which there is no
  block can be put into a node of such a kind, at any place of a tree. Within them there were no gaps and are
  none, whether the new parent separates its blocks or not, and the gaps at their ends are those of the new
  node, which is no block either. So the text stays, and so does the defect that stops the rendering.
Main exports: Kind.isSilent, isSilent_iff, Node.Wrapped, bodyFrom_wrapped, Interchangeable,
  render_text_wrapped
-/

namespace Unmark

namespace Tag

/-- The kinds of nodes that write nothing themselves. -/
def isSilent : Tag → Bool
  | root | emphasis | strong | image | linkReference | imageReference | definition | lineBreak | rawHtml
  | thematicBreak | table | tableRow | tableCell | frontMatter | footnoteDefinition
  | footnoteReference => true
  | _ => false

end Tag

/-- Whether a node of this kind writes nothing itself. What stands below it is written all the same. -/
def Kind.isSilent : Kind → Bool
  | tag t => t.isSilent
  | foreign .. => true

namespace Node

/-- The second tree is the first with some neighbouring siblings, none of them a block, put into a node of a
    silent kind. The siblings are children of the root or of any node below it. -/
inductive Wrapped : Node → Node → Prop where
  | here (k : Kind) (p : Payload) (md : Entries) (front run back : List Node) (wrapper : Kind)
      (payload : Payload) (metadata : Entries) (nonempty : run ≠ [])
      (plain : ∀ n ∈ run, n.kind.isBlockRuled = false) (silent : wrapper.isSilent = true) :
      Wrapped (.mk k p md (front ++ run ++ back))
        (.mk k p md (front ++ .mk wrapper payload metadata run :: back))
  | inside (k : Kind) (p : Payload) (md : Entries) (front back : List Node) {c c' : Node}
      (inner : Wrapped c c') : Wrapped (.mk k p md (front ++ c :: back)) (.mk k p md (front ++ c' :: back))

end Node

namespace PlainText

open Node

/-! ### Silent kinds -/

/-- A kind is silent exactly when the renderer, on whatever event of a node of this kind, neither writes nor
    fails. -/
theorem isSilent_iff {k : Kind} :
    k.isSilent = true ↔ ∀ (o : Options) (e : Event) (page : Page), e.node.kind = k →
      ((renderEvent o e).run.run page).1 = .ok () ∧
        ((renderEvent o e).run.run page).2.written = page.written := by
  constructor
  · rintro silent o ⟨⟨kind, p, md, cs⟩, parent, i, entering⟩ page rfl
    rw [does_renderEvent]
    cases kind with
    | foreign name fresh => cases entering <;> exact ⟨rfl, rfl⟩
    | tag t =>
        cases t
        case text | inlineCode | code | link | strikethrough | paragraph | heading | list | listItem
          | blockquote => cases silent
        all_goals exact ⟨rfl, rfl⟩
  · intro quiet
    cases k with
    | foreign name fresh => rfl
    | tag t =>
        -- A node without a payload, the first of two children of a root.
        let n : Node := .mk (.tag t) {} [] []
        let parent : Node := .mk (.tag .root) {} [] [n, n]
        have entered := quiet {} ⟨n, parent, 0, true⟩ {} rfl
        have left := quiet {} ⟨n, parent, 0, false⟩ {} rfl
        cases t
        case text | inlineCode | code => cases entered.1
        case link | strikethrough => cases entered.2
        case paragraph | heading | list | listItem | blockquote => cases left.2
        all_goals rfl

theorem isBlockRuled_of_isSilent {k : Kind} (silent : k.isSilent = true) : k.isBlockRuled = false := by
  cases k with
  | foreign name fresh => rfl
  | tag t =>
      cases t
      case paragraph | heading | list | listItem | blockquote | code => cases silent
      all_goals rfl

section Silent

variable {k : Kind} (silent : k.isSilent = true) (p : Payload) (md : Entries) (cs : List Node)

include silent

theorem textOf_of_isSilent (o : Options) : textOf o (.mk k p md cs) = bodyFrom o k none cs := by
  cases k with
  | foreign name fresh => simp [textOf]
  | tag t =>
      cases t
      case text | inlineCode | code | link | strikethrough => cases silent
      all_goals simp [textOf]

theorem defectOf_of_isSilent : defectOf (.mk k p md cs) = defectIn cs := by
  cases k with
  | foreign name fresh => simp [defectOf]
  | tag t =>
      cases t
      case text | inlineCode | code | link | strikethrough => cases silent
      all_goals simp [defectOf]

end Silent

/-! ### Siblings without blocks -/

/-- Of the left neighbour it counts only whether it is a block. -/
theorem bodyFrom_congr_left (o : Options) (parent : Kind) {left left' : Option Kind}
    (alike : left.map Kind.isBlockRuled = left'.map Kind.isBlockRuled) (ns : List Node) :
    bodyFrom o parent left ns = bodyFrom o parent left' ns := by
  cases ns with
  | nil => rfl
  | cons n ns =>
      cases left <;> cases left' <;> simp_all [bodyFrom, gapAfter, gap]

/-- Siblings without a block behind no block have no gaps, whatever their parent is. -/
theorem bodyFrom_plain (o : Options) (parent : Kind) {ns : List Node}
    (plain : ∀ n ∈ ns, n.kind.isBlockRuled = false) (left : Option Kind)
    (ahead : left.any Kind.isBlockRuled = false) : bodyFrom o parent left ns = ns.flatMap (textOf o) := by
  induction ns generalizing left with
  | nil => rfl
  | cons n ns ih =>
      obtain ⟨first, rest⟩ := List.forall_mem_cons.1 plain
      have no_gap : gapAfter o parent left n.kind = [] := by
        cases left <;> simp_all [gapAfter, gap]
      rw [bodyFrom, no_gap, ih rest (some n.kind) first, List.nil_append, List.flatMap_cons]

/-- Siblings without a block have the same body whether they are in a silent node of their own or not. -/
theorem bodyFrom_wrapped (o : Options) (parent : Kind) (left : Option Kind) (front back : List Node)
    {run : List Node} (nonempty : run ≠ []) (plain : ∀ n ∈ run, n.kind.isBlockRuled = false) {wrapper : Kind}
    (silent : wrapper.isSilent = true) (payload : Payload) (metadata : Entries) :
    bodyFrom o parent left (front ++ .mk wrapper payload metadata run :: back) =
      bodyFrom o parent left (front ++ run ++ back) := by
  obtain ⟨n, ns, rfl⟩ := List.exists_cons_of_ne_nil nonempty
  have wrapper_plain := isBlockRuled_of_isSilent silent
  obtain ⟨first, rest⟩ := List.forall_mem_cons.1 plain
  rw [List.append_assoc, bodyFrom_append, bodyFrom_append, List.append_cancel_left_eq]
  generalize (neighbour front).or left = ahead
  have own_gap : gapAfter o parent ahead wrapper = gapAfter o parent ahead n.kind := by
    cases ahead <;> simp [gapAfter, gap, first, wrapper_plain]
  have behind : bodyFrom o parent (some wrapper) back
      = bodyFrom o parent ((neighbour (n :: ns)).or ahead) back := by
    apply bodyFrom_congr_left
    cases last : (n :: ns).getLast? with
    | none => simp at last
    | some l => simp [neighbour, last, wrapper_plain, plain l (List.mem_of_getLast? last)]
  calc bodyFrom o parent ahead (.mk wrapper payload metadata (n :: ns) :: back)
      = gapAfter o parent ahead n.kind ++ (n :: ns).flatMap (textOf o)
          ++ bodyFrom o parent (some wrapper) back := by
        rw [bodyFrom, kind_mk, own_gap, textOf_of_isSilent silent, bodyFrom_plain o wrapper plain none rfl]
    _ = bodyFrom o parent ahead (n :: ns) ++ bodyFrom o parent ((neighbour (n :: ns)).or ahead) back := by
        rw [behind, bodyFrom, bodyFrom_plain o parent rest (some n.kind) first, List.flatMap_cons,
          ← List.append_assoc (gapAfter o parent ahead n.kind)]
    _ = bodyFrom o parent ahead (n :: ns ++ back) := (bodyFrom_append o parent ahead (n :: ns) back).symm

theorem defectIn_append (ns ms : List Node) : defectIn (ns ++ ms) = (defectIn ns).or (defectIn ms) := by
  induction ns with
  | nil => rw [List.nil_append, defectIn, Option.none_or]
  | cons n ns ih => rw [List.cons_append, defectIn, defectIn, ih, Option.or_assoc]

/-! ### The same text at every place of a tree -/

/-- A node can stand for another: it is of the same kind with the same fields, and what stands below it comes
    to the same text under all options, or to the same defect. -/
structure Interchangeable (n n' : Node) : Prop where
  kind : n'.kind = n.kind
  payload : n'.payload = n.payload
  body : ∀ o : Options, body o n' = body o n
  defect : firstDefect n' = firstDefect n

namespace Interchangeable

variable {n n' : Node} (same : Interchangeable n n')

include same

theorem textOf_eq (o : Options) : textOf o n' = textOf o n := by
  obtain ⟨k, p, md, cs⟩ := n
  obtain ⟨k', p', md', cs'⟩ := n'
  have kind : k' = k := same.kind
  have payload : p' = p := same.payload
  have inner : bodyFrom o k' none cs' = bodyFrom o k none cs := same.body o
  subst kind payload
  simp only [textOf, inner]

theorem defectOf_eq : defectOf n' = defectOf n := by
  obtain ⟨k, p, md, cs⟩ := n
  obtain ⟨k', p', md', cs'⟩ := n'
  have kind : k' = k := same.kind
  have payload : p' = p := same.payload
  have inner : defectIn cs' = defectIn cs := same.defect
  subst kind payload
  simp only [defectOf, inner]

/-- Parents of interchangeable nodes are interchangeable, if all else is equal. -/
theorem inside (k : Kind) (p : Payload) (md : Entries) (front back : List Node) :
    Interchangeable (.mk k p md (front ++ n :: back)) (.mk k p md (front ++ n' :: back)) where
  kind := rfl
  payload := rfl
  body o := by
    simp only [PlainText.body, kind_mk, children_mk, bodyFrom_append, bodyFrom, same.kind, same.textOf_eq o]
  defect := by
    simp only [firstDefect, children_mk, defectIn_append, defectIn, same.defectOf_eq]

end Interchangeable

/-- Siblings in a silent node of their own leave the tree interchangeable with what it was. -/
theorem interchangeable_of_wrapped {tree tree' : Node} (wrapped : Wrapped tree tree') :
    Interchangeable tree tree' := by
  induction wrapped with
  | here k p md front run back wrapper payload metadata nonempty plain silent =>
      refine ⟨rfl, rfl, fun o => ?_, ?_⟩
      · exact bodyFrom_wrapped o k none front back nonempty plain silent payload metadata
      · simp only [firstDefect, children_mk, defectIn_append, defectIn, defectOf_of_isSilent silent,
          Option.or_assoc]
  | inside k p md front back inner ih => exact ih.inside k p md front back

/-- A tree comes to the same text, or stops at the same defect, when neighbouring siblings without a block
    among them are put into a node of their own that writes nothing itself. The siblings may stand at any
    place below the root, and the new node may be of any silent kind, known or foreign, and may hold anything. -/
theorem render_text_wrapped (o : Options) {tree tree' : Node} (wrapped : Wrapped tree tree') :
    (render o tree').text = (render o tree).text := by
  have same := interchangeable_of_wrapped wrapped
  exact render_text_congr o (same.body o) same.defect

/-- A text and a link between two paragraphs of a list item, put into a table. -/
theorem render_text_wrapped_item :
    let before := Build.paragraph [Build.text "a"]
    let run := [Build.text "b", Build.link (some "u") none [Build.text "c"]]
    let behind := Build.paragraph [Build.text "d"]
    let document (items : List Node) := Build.root [Build.list false none [Build.listItem none items]] []
    Wrapped (document (before :: run ++ [behind])) (document [before, Build.table run, behind]) ∧
      (render {} (document [before, Build.table run, behind])).text =
        (render {} (document (before :: run ++ [behind]))).text ∧
      (render {} (document (before :: run ++ [behind]))).text = .ok "a\nb[c](u)\nd" := by
  intro before run behind document
  have wrapped : Wrapped (document (before :: run ++ [behind])) (document [before, Build.table run, behind]) :=
    .inside _ _ _ [] [] (.inside _ _ _ [] [] (.here _ _ _ [before] run [behind] _ _ _ (by decide) (by decide) rfl))
  exact ⟨wrapped, render_text_wrapped {} wrapped, rfl⟩

end PlainText

end Unmark
