import Unmark.Proofs.BareTree

/-
Module: Unmark.Proofs.PrintedFields
Layer: Proofs
Purpose: What a rendering reads. Of a node below the root it reads the kind and the one field that its kind
  prints, of the root the kind alone (`Node.LooksLike`). Two documents that look alike go through the same
  effects, event by event, so they come to the same text or the same error, and to the same log records,
  whatever else they hold: HTML, alternative texts, titles, identifiers, numbers, metadata.
Main exports: Payload.printed, Node.PrintsLike, Node.LooksLike, effect_eq_of_printsLike,
  render_eq_of_looksLike
-/

namespace Unmark

/-- The field of a payload that a node of some kind prints, without all other fields. -/
def Payload.printed (k : Kind) (p : Payload) : Payload :=
  match k with
  | .tag .text | .tag .inlineCode | .tag .code => { value := p.value }
  | .tag .link => { url := p.url }
  | _ => {}

/-- What is printed of a printed field is all of it. -/
theorem Payload.printed_printed (k : Kind) (p : Payload) : (p.printed k).printed k = p.printed k := by
  cases k with
  | foreign name fresh => rfl
  | tag t => cases t <;> rfl

namespace Node

mutual

/-- Two trees print alike: position by position they have nodes of equal kinds that print equal fields. -/
def PrintsLike : Node → Node → Prop
  | mk k p _ cs, mk k' p' _ cs' => k = k' ∧ p.printed k = p'.printed k' ∧ AllPrintLike cs cs'

/-- As many trees in two lists print alike, one by one. -/
def AllPrintLike : List Node → List Node → Prop
  | [], [] => True
  | n :: ns, n' :: ns' => PrintsLike n n' ∧ AllPrintLike ns ns'
  | [], _ :: _ | _ :: _, [] => False

end

/-- Two documents look alike: their roots are of one kind, and what stands below them prints alike. -/
def LooksLike (tree tree' : Node) : Prop :=
  tree.kind = tree'.kind ∧ AllPrintLike tree.children tree'.children

mutual

/-- A tree without metadata and without the fields that its nodes do not print. -/
def printed : Node → Node
  | mk k p _ cs => mk k (p.printed k) [] (printedAll cs)

/-- The same for a list of trees. -/
def printedAll : List Node → List Node
  | [] => []
  | n :: ns => printed n :: printedAll ns

end

theorem PrintsLike.looksLike {n n' : Node} (alike : PrintsLike n n') : LooksLike n n' := by
  obtain ⟨k, p, m, cs⟩ := n
  obtain ⟨k', p', m', cs'⟩ := n'
  rw [PrintsLike] at alike
  exact ⟨alike.1, alike.2.2⟩

/-- Trees that print alike have roots of one kind, in the same order. -/
theorem map_kind_eq_of_allPrintLike {ns ns' : List Node} (alike : AllPrintLike ns ns') :
    ns.map kind = ns'.map kind := by
  induction ns generalizing ns' with
  | nil =>
      cases ns' with
      | nil => rfl
      | cons n' ns' => rw [AllPrintLike] at alike; exact alike.elim
  | cons n ns ih =>
      cases ns' with
      | nil => rw [AllPrintLike] at alike; exact alike.elim
      | cons n' ns' =>
          rw [AllPrintLike] at alike
          rw [List.map_cons, List.map_cons, alike.1.looksLike.1, ih alike.2]

mutual

/-- A tree prints like what is printed of it. -/
theorem printsLike_printed : ∀ n : Node, PrintsLike n n.printed
  | mk k p m cs => by
      rw [printed, PrintsLike]
      exact ⟨rfl, (p.printed_printed k).symm, allPrintLike_printedAll cs⟩

/-- The same for a list of trees. -/
theorem allPrintLike_printedAll : ∀ ns : List Node, AllPrintLike ns (printedAll ns)
  | [] => by
      rw [printedAll, AllPrintLike]
      trivial
  | n :: ns => by
      rw [printedAll, AllPrintLike]
      exact ⟨printsLike_printed n, allPrintLike_printedAll ns⟩

end

end Node

namespace PlainText

open Node

/-- Whether the sibling in front is a block can be told from the kinds of the children. -/
theorem previousIsBlock_eq_of_looksLike {parent parent' : Node} (alike : LooksLike parent parent') (i : Nat) :
    previousIsBlock parent i = previousIsBlock parent' i := by
  have by_kinds : ∀ n : Node, previousIsBlock n i =
      (((n.children.map kind)[i - 1]?).map Kind.isBlockRuled).getD false := by
    intro n
    rw [previousIsBlock, List.getElem?_map]
    cases n.children[i - 1]? <;> rfl
  rw [by_kinds, by_kinds, map_kind_eq_of_allPrintLike alike.2]

section Effect

variable (o : Options) {parent parent' n n' : Node} (around : LooksLike parent parent')

include around

theorem separation_eq_of_looksLike (n n' : Node) (i : Nat) (entering : Bool) :
    separation o ⟨n, parent, i, entering⟩ = separation o ⟨n', parent', i, entering⟩ := by
  have siblings : parent.children.length = parent'.children.length := by
    simpa using congrArg List.length (map_kind_eq_of_allPrintLike around.2)
  simp only [separation, around.1, siblings, previousIsBlock_eq_of_looksLike around]

/-- An event has the same effect on nodes that print alike, below parents that look alike. -/
theorem effect_eq_of_printsLike (alike : PrintsLike n n') (i : Nat) (entering : Bool) :
    effect o ⟨n, parent, i, entering⟩ = effect o ⟨n', parent', i, entering⟩ := by
  have separators := separation_eq_of_looksLike o around n n' i entering
  obtain ⟨k, p, m, cs⟩ := n
  obtain ⟨k', p', m', cs'⟩ := n'
  rw [PrintsLike] at alike
  obtain ⟨rfl, fields, -⟩ := alike
  cases k with
  | foreign name fresh => rfl
  | tag t =>
      cases t
      case text | inlineCode | code =>
        have value : p.value = p'.value := by simpa [Payload.printed] using fields
        simp only [effect, kind_mk, payload_mk, separators, value]
      case link =>
        have url : p.url = p'.url := by simpa [Payload.printed] using fields
        simp only [effect, kind_mk, payload_mk, url]
      case paragraph | heading | list | listItem | blockquote =>
        simp only [effect, kind_mk, separators]
      all_goals rfl

end Effect

mutual

/-- The traversals of documents that look alike have the same effects, one by one. -/
theorem map_effect_events_eq (o : Options) :
    ∀ n n' : Node, LooksLike n n' → n.events.map (effect o) = n'.events.map (effect o)
  | mk k p m cs, mk k' p' m' cs', alike => by
      rw [events, events]
      exact map_effect_eventsFrom_eq o alike 0 cs cs' alike.2

/-- The same for children of two parents that look alike. -/
theorem map_effect_eventsFrom_eq (o : Options) {parent parent' : Node} (around : LooksLike parent parent') :
    ∀ (i : Nat) (cs cs' : List Node), AllPrintLike cs cs' →
      (eventsFrom parent i cs).map (effect o) = (eventsFrom parent' i cs').map (effect o)
  | _, [], [], _ => rfl
  | _, [], _ :: _, alike | _, _ :: _, [], alike => by
      rw [AllPrintLike] at alike
      exact alike.elim
  | i, c :: cs, c' :: cs', alike => by
      rw [AllPrintLike] at alike
      have own := effect_eq_of_printsLike o around alike.1 i
      have below := map_effect_events_eq o c c' alike.1.looksLike
      have rest := map_effect_eventsFrom_eq o around (i + 1) cs cs' alike.2
      simp only [eventsFrom, List.map_append, List.map_cons, own, below, rest]

end

/-- A rendering reads the kinds and the printed fields of the nodes below the root, and the kind of the root.
    Documents that look alike come to the same text or the same error, and to the same log records; equal
    documents do, and so does a document from which everything is taken that is not printed. -/
theorem render_eq_of_looksLike (o : Options) :
    (∀ tree tree' : Node, LooksLike tree tree' → render o tree = render o tree') ∧
    (∀ tree tree' : Node, (tree == tree') = true → render o tree = render o tree') ∧
    ∀ tree : Node, render o tree.printed = render o tree := by
  have alike : ∀ tree tree' : Node, LooksLike tree tree' → render o tree = render o tree' := by
    intro tree tree' alike
    simp only [render, typeset_eq_runEffects, map_effect_events_eq o tree tree' alike]
  refine ⟨alike, ?_, ?_⟩
  · intro tree tree' same
    rw [← render_bare o tree, (beq_iff_bare_eq tree tree').1 same, render_bare]
  · intro tree
    exact (alike tree tree.printed (printsLike_printed tree).looksLike).symm

/-- HTML, an alternative text and the payload of the root differ, and yet the two documents look alike. -/
example : LooksLike
    (.mk (.tag .root) { value := some "a" } []
      [.mk (.tag .rawHtml) { value := some "<b>" } [] [], .mk (.tag .image) { alt := some "x" } [] []])
    (.mk (.tag .root) {} [(.str "k", .null)]
      [.mk (.tag .rawHtml) { value := some "<i>" } [] [], .mk (.tag .image) { alt := some "y" } [] []]) :=
  ⟨rfl, ⟨rfl, rfl, trivial⟩, ⟨rfl, rfl, trivial⟩, trivial⟩

end PlainText

end Unmark
