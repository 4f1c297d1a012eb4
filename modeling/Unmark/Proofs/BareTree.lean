import Unmark.Proofs.WalkEffects

/-
Module: Unmark.Proofs.BareTree
Layer: Proofs
Purpose: What metadata has no part in. Two trees are equal exactly when they are the same tree once all
  metadata is taken off (`Node.bare`), and a rendering sees the bare tree only: its traversal reports the
  same events, and an event has the same effect.
Main exports: Node.bare, beq_iff_bare_eq, render_bare
-/

namespace Unmark

namespace Node

mutual

/-- A tree without the metadata of its nodes. -/
def bare : Node → Node
  | mk k p _ cs => mk k p [] (bareAll cs)

/-- The same for a list of trees. -/
def bareAll : List Node → List Node
  | [] => []
  | n :: ns => bare n :: bareAll ns

end

@[simp] theorem kind_bare (n : Node) : n.bare.kind = n.kind := by
  obtain ⟨k, p, m, cs⟩ := n
  rw [bare]
  rfl

@[simp] theorem payload_bare (n : Node) : n.bare.payload = n.payload := by
  obtain ⟨k, p, m, cs⟩ := n
  rw [bare]
  rfl

theorem bareAll_eq_map (ns : List Node) : bareAll ns = ns.map bare := by
  induction ns with
  | nil => rfl
  | cons n ns ih => rw [bareAll, ih, List.map_cons]

@[simp] theorem children_bare (n : Node) : n.bare.children = n.children.map bare := by
  obtain ⟨k, p, m, cs⟩ := n
  rw [bare, children_mk, children_mk, bareAll_eq_map]

mutual

/-- Equality of nodes is equality of bare trees. -/
theorem beq_iff_bare_eq : ∀ n n' : Node, (n == n') = true ↔ n.bare = n'.bare
  | mk k p m cs, mk k' p' m' cs' => by
      have below := beqAll_iff_bareAll_eq cs cs'
      change beq _ _ = true ↔ _
      simp [beq, bare, below, and_assoc]

/-- The same for lists of nodes. -/
theorem beqAll_iff_bareAll_eq : ∀ ns ns' : List Node, beqAll ns ns' = true ↔ bareAll ns = bareAll ns'
  | [], [] | [], _ :: _ | _ :: _, [] => by simp [beqAll, bareAll]
  | n :: ns, n' :: ns' => by
      have first := beq_iff_bare_eq n n'
      have rest := beqAll_iff_bareAll_eq ns ns'
      change n.beq n' = true ↔ _ at first
      simp [beqAll, bareAll, first, rest]

end

end Node

namespace Event

/-- An event of the traversal of a bare tree. -/
def bare (e : Event) : Event := ⟨e.node.bare, e.parent.bare, e.index, e.entering⟩

variable (e : Event)

@[simp] theorem node_bare : e.bare.node = e.node.bare := rfl
@[simp] theorem parent_bare : e.bare.parent = e.parent.bare := rfl
@[simp] theorem index_bare : e.bare.index = e.index := rfl
@[simp] theorem entering_bare : e.bare.entering = e.entering := rfl

end Event

namespace Node

mutual

/-- The traversal of a bare tree reports bare nodes at the same positions. -/
theorem events_bare : ∀ n : Node, n.bare.events = n.events.map Event.bare
  | mk k p m cs => by
      rw [bare, events, events]
      exact eventsFrom_bare (mk k p m cs) 0 cs

/-- The same for the children of one parent. -/
theorem eventsFrom_bare (parent : Node) :
    ∀ (i : Nat) (cs : List Node),
      eventsFrom parent.bare i (bareAll cs) = (eventsFrom parent i cs).map Event.bare
  | _, [] => rfl
  | i, c :: cs => by
      have below := events_bare c
      have rest := eventsFrom_bare parent (i + 1) cs
      simp [bareAll, eventsFrom, below, rest, Event.bare]

end

end Node

namespace PlainText

theorem separation_bare (o : Options) (e : Event) : separation o e.bare = separation o e := by
  have sibling : previousIsBlock e.parent.bare e.index = previousIsBlock e.parent e.index := by
    simp only [previousIsBlock, Node.children_bare, List.getElem?_map]
    cases e.parent.children[e.index - 1]? <;> simp
  simp only [separation, Event.parent_bare, Event.index_bare, Event.entering_bare, Node.kind_bare,
    Node.children_bare, List.length_map, sibling]
  rfl

/-- An event has the same effect whatever metadata stands around. -/
theorem effect_bare (o : Options) (e : Event) : effect o e.bare = effect o e := by
  simp only [effect, separation_bare, Event.node_bare, Event.entering_bare, Node.kind_bare,
    Node.payload_bare]
  rfl

/-- A rendering does not depend on metadata. -/
theorem render_bare (o : Options) (tree : Node) : render o tree.bare = render o tree := by
  have effects : tree.bare.events.map (effect o) = tree.events.map (effect o) := by
    rw [tree.events_bare, List.map_map]
    exact List.map_congr_left fun e _ => effect_bare o e
  simp only [render, typeset_eq_runEffects, effects]

end PlainText

end Unmark
