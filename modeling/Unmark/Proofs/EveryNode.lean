import Unmark.Proofs.RenderedBody

/-
Module: Unmark.Proofs.EveryNode
Layer: Proofs
Purpose: Facts that hold of every node of a tree, and what they mean for its rendering. A rendering has no
  defect exactly when every node has the fields that its kind prints, and it notes no name when every
  node is of a known kind. So a document made of printable nodes is rendered to its end, in silence.
Main exports: Node.Every, Node.EveryIn, Node.Below, everyIn_children_iff, place_of_mem_events, Complete,
  defectIn_eq_none_iff, fragments, fragments_of_complete, Printable, render_of_printable
-/

namespace Unmark

namespace Node

mutual

/-- Every node of a tree satisfies `P`, the top one included. -/
def Every (P : Node → Prop) : Node → Prop
  | mk k p m cs => P (mk k p m cs) ∧ EveryIn P cs

/-- Every node of every tree in a list satisfies `P`. -/
def EveryIn (P : Node → Prop) : List Node → Prop
  | [] => True
  | n :: ns => Every P n ∧ EveryIn P ns

end

section Every

variable {P Q : Node → Prop}

theorem every_iff {n : Node} : n.Every P ↔ P n ∧ EveryIn P n.children := by
  obtain ⟨k, p, m, cs⟩ := n
  rw [Every]
  rfl

@[simp] theorem everyIn_nil : EveryIn P [] := trivial

@[simp] theorem everyIn_cons {n : Node} {ns : List Node} :
    EveryIn P (n :: ns) ↔ n.Every P ∧ EveryIn P ns := by
  rw [EveryIn]

@[simp] theorem everyIn_append {ns ns' : List Node} :
    EveryIn P (ns ++ ns') ↔ EveryIn P ns ∧ EveryIn P ns' := by
  induction ns with
  | nil => simp
  | cons n ns ih => simp [ih, and_assoc]

theorem everyIn_iff_forall_mem {ns : List Node} : EveryIn P ns ↔ ∀ n ∈ ns, n.Every P := by
  induction ns with
  | nil => simp
  | cons n ns ih => simp [ih]

mutual

/-- What every node satisfies can be weakened. -/
theorem Every.imp (weaker : ∀ n, P n → Q n) : ∀ n : Node, n.Every P → n.Every Q
  | mk k p m cs, every => by
      rw [Every] at every ⊢
      exact ⟨weaker _ every.1, EveryIn.imp weaker cs every.2⟩

/-- The same for a list of trees. -/
theorem EveryIn.imp (weaker : ∀ n, P n → Q n) : ∀ ns : List Node, EveryIn P ns → EveryIn Q ns
  | [], _ => trivial
  | n :: ns, ⟨first, rest⟩ => ⟨Every.imp weaker n first, EveryIn.imp weaker ns rest⟩

end

/-! ### Nodes below a node -/

/-- One node stands below another: it is a child of the other, or stands below one of its children. -/
inductive Below : Node → Node → Prop where
  | child {n top : Node} (mem : n ∈ top.children) : Below n top
  | deeper {n c top : Node} (mem : c ∈ top.children) (below : Below n c) : Below n top

mutual

/-- What holds of a node and of all below it holds of every node of its tree. -/
theorem every_of_below : ∀ n : Node, P n → (∀ m, m.Below n → P m) → n.Every P
  | mk k p md cs, here, under => by
      rw [Every]
      refine ⟨here, everyIn_of_below cs ?_⟩
      intro c mem
      exact ⟨under c (.child mem), fun m below => under m (.deeper mem below)⟩

/-- The same for a list of trees. -/
theorem everyIn_of_below :
    ∀ ns : List Node, (∀ n ∈ ns, P n ∧ ∀ m, Below m n → P m) → EveryIn P ns
  | [], _ => everyIn_nil
  | n :: ns, under => by
      obtain ⟨here, inner⟩ := under n List.mem_cons_self
      have rest : ∀ m ∈ ns, P m ∧ ∀ l, Below l m → P l := by
        intro m mem
        exact under m (List.mem_cons_of_mem n mem)
      exact everyIn_cons.2 ⟨every_of_below n here inner, everyIn_of_below ns rest⟩

end

/-- The nodes of the trees of the children are those that stand below. -/
theorem everyIn_children_iff {top : Node} : EveryIn P top.children ↔ ∀ n : Node, n.Below top → P n := by
  constructor
  · intro every n below
    induction below with
    | child mem => exact (every_iff.1 (everyIn_iff_forall_mem.1 every _ mem)).1
    | deeper mem _ ih => exact ih (every_iff.1 (everyIn_iff_forall_mem.1 every _ mem)).2
  · intro under
    refine everyIn_of_below top.children fun c mem => ⟨under c (.child mem), ?_⟩
    exact fun m below => under m (.deeper mem below)

/-! ### Nodes of events -/

mutual

/-- A traversal reports the nodes below the root and no other. -/
theorem forall_mem_events : ∀ n : Node, EveryIn P n.children → ∀ e ∈ n.events, P e.node
  | mk k p m cs, every => by
      rw [events]
      exact forall_mem_eventsFrom (mk k p m cs) 0 cs every

/-- The same for the children of one parent. -/
theorem forall_mem_eventsFrom (parent : Node) :
    ∀ (i : Nat) (cs : List Node), EveryIn P cs → ∀ e ∈ eventsFrom parent i cs, P e.node
  | _, [], _ => by simp [eventsFrom]
  | i, c :: cs, ⟨first, rest⟩ => by
      rw [every_iff] at first
      have below := forall_mem_events c first.2
      have after := forall_mem_eventsFrom parent (i + 1) cs rest
      intro e mem
      simp only [eventsFrom, List.cons_append, List.mem_cons, List.mem_append] at mem
      rcases mem with rfl | mem | rfl | mem
      · exact first.1
      · exact below e mem
      · exact first.1
      · exact after e mem

end

mutual

/-- A traversal reports a node with its parent, which is the root or stands below it, and with its place
    among the children of the parent. -/
theorem place_of_mem_events : ∀ (n : Node) {e : Event}, e ∈ n.events →
    (e.parent = n ∨ e.parent.Below n) ∧ e.parent.children[e.index]? = some e.node
  | mk k p md cs, e, mem => by
      rw [events] at mem
      exact place_of_mem_eventsFrom (mk k p md cs) [] cs rfl mem

/-- The same for the children of one parent that follow those in front. -/
theorem place_of_mem_eventsFrom (parent : Node) :
    ∀ (front cs : List Node) {e : Event}, parent.children = front ++ cs →
      e ∈ eventsFrom parent front.length cs →
        (e.parent = parent ∨ e.parent.Below parent) ∧ e.parent.children[e.index]? = some e.node
  | _, [], _, _, mem => by
      rw [eventsFrom] at mem
      cases mem
  | front, c :: cs, e, place, mem => by
      have here : parent.children[front.length]? = some c := by simp [place]
      have child : c ∈ parent.children := List.mem_of_getElem? here
      have next : parent.children = (front ++ [c]) ++ cs := by simp [place]
      simp only [eventsFrom, List.cons_append, List.mem_cons, List.mem_append] at mem
      rcases mem with rfl | inner | rfl | later
      · exact ⟨.inl rfl, here⟩
      · obtain ⟨under, there⟩ := place_of_mem_events c inner
        refine ⟨.inr ?_, there⟩
        rcases under with same | below
        · exact same ▸ .child child
        · exact .deeper child below
      · exact ⟨.inl rfl, here⟩
      · refine place_of_mem_eventsFrom parent (front ++ [c]) cs next ?_
        rw [List.length_append]
        exact later

end

end Every

end Node

namespace PlainText

open Node

/-- A node that has the field which its kind prints, if its kind prints one. -/
def Complete (n : Node) : Prop :=
  match n.kind with
  | .tag .text | .tag .inlineCode | .tag .code => n.payload.value ≠ none
  | .tag .link => n.payload.url ≠ none
  | _ => True

mutual

/-- A tree has no defect exactly when all of its nodes are complete. -/
theorem defectOf_eq_none_iff : ∀ n : Node, defectOf n = none ↔ n.Every Complete
  | .mk k p m cs => by
      have below := defectIn_eq_none_iff cs
      cases k with
      | foreign name fresh => simp [defectOf, Every, Complete, below]
      | tag t =>
          cases t
          case link => cases url : p.url <;> simp [defectOf, Every, Complete, below, url]
          all_goals cases value : p.value <;> simp [defectOf, Every, Complete, below, value]

/-- The same for a list of trees. -/
theorem defectIn_eq_none_iff : ∀ ns : List Node, defectIn ns = none ↔ EveryIn Complete ns
  | [] => by simp [defectIn]
  | n :: ns => by
      have first := defectOf_eq_none_iff n
      have rest := defectIn_eq_none_iff ns
      rw [defectIn, Option.or_eq_none_iff, first, rest, everyIn_cons]

end

/-- The names that a run notes are all that its effects note. -/
theorem runEffects_foreignNames {xs : List Effect} (silent : ∀ x ∈ xs, x.noted = none) (page : Page) :
    (runEffects xs page).2.foreignNames = page.foreignNames := by
  induction xs generalizing page with
  | nil => rfl
  | cons x xs ih =>
      rw [List.forall_mem_cons] at silent
      have kept : (x.on page).foreignNames = page.foreignNames := by simp [Effect.on, silent.1]
      rw [runEffects]
      cases defect : x.defect with
      | some d => exact kept
      | none => exact (ih silent.2 (x.on page)).trans kept

/-- Only a node of a foreign kind is noted. -/
theorem effect_noted_eq_none (o : Options) {e : Event} (known : e.node.kind.isKnown) :
    (effect o e).noted = none := by
  rw [effect_noted]
  cases kind : e.node.kind with
  | foreign name fresh => simp [kind, Kind.isKnown] at known
  | tag t => exact ite_self none

/-- A node of a known kind that has the field which its kind prints. -/
def Printable (n : Node) : Prop := n.kind.isKnown ∧ Complete n

/-- The fragments that a rendering writes, in order. -/
def fragments (o : Options) (tree : Node) : List Fragment := (typeset o tree).2.written.reverse

/-- A document without a defect is rendered to its end, and the fragments are those of its body. -/
theorem fragments_of_complete (o : Options) {tree : Node} (complete : firstDefect tree = none) :
    (render o tree).text = .ok (String.join ((fragments o tree).map Fragment.text)) ∧
      fragments o tree = body o tree := by
  have found := findSome?_defect_events o tree
  have outcome := runEffects_outcome (tree.events.map (effect o)) {}
  have written := runEffects_written (found.trans complete) {}
  rw [found, complete] at outcome
  rw [flatMap_written_events o tree complete] at written
  constructor
  · simp [render, fragments, typeset_eq_runEffects, outcome, Except.map, pageText]
  · simp [fragments, typeset_eq_runEffects, written]

/-- A document whose nodes below the root are printable is rendered to its end, and no name is noted. -/
theorem render_of_printable (o : Options) {tree : Node} (printable : EveryIn Printable tree.children) :
    (∃ text, (render o tree).text = .ok text) ∧ (render o tree).log = [] := by
  have complete : firstDefect tree = none :=
    (defectIn_eq_none_iff tree.children).2 (EveryIn.imp (fun _ fine => fine.2) _ printable)
  have known := forall_mem_events tree (EveryIn.imp (fun _ fine => fine.1) _ printable)
  have silent : ∀ x ∈ tree.events.map (effect o), x.noted = none := by
    intro x mem
    obtain ⟨e, among, rfl⟩ := List.mem_map.1 mem
    exact effect_noted_eq_none o (known e among)
  refine ⟨⟨_, (fragments_of_complete o complete).1⟩, ?_⟩
  have names := runEffects_foreignNames silent {}
  simp [render, typeset_eq_runEffects, names]

end PlainText

end Unmark
