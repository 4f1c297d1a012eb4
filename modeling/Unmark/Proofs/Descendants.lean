import Unmark.Tree.Walk

/-
Module: Unmark.Proofs.Descendants
Layer: Proofs
Purpose: The nodes below a node as a list in document order, a node in front of those below it. A node that
  stands at several places is listed once for each. They are the nodes that a traversal enters, in the order
  in which it enters them.
Main exports: Node.descendants, entered, entered_events
-/

namespace Unmark

/-- The nodes that are entered in a list of events. -/
def entered (es : List Event) : List Node := (es.filter Event.entering).map Event.node

theorem entered_append (es es' : List Event) : entered (es ++ es') = entered es ++ entered es' := by
  rw [entered, List.filter_append, List.map_append, entered, entered]

@[simp] theorem entered_entering (n parent : Node) (i : Nat) (es : List Event) :
    entered (⟨n, parent, i, true⟩ :: es) = n :: entered es := rfl

@[simp] theorem entered_leaving (n parent : Node) (i : Nat) (es : List Event) :
    entered (⟨n, parent, i, false⟩ :: es) = entered es := rfl

namespace Node

mutual

/-- The nodes below a node. -/
def descendants : Node → List Node
  | mk _ _ _ cs => descendantsIn cs

/-- The nodes of the trees in a list. -/
def descendantsIn : List Node → List Node
  | [] => []
  | n :: ns => n :: (descendants n ++ descendantsIn ns)

end

mutual

/-- A traversal enters the nodes below the root, and no other. -/
theorem entered_events : ∀ n : Node, entered n.events = n.descendants
  | mk k p md cs => by
      rw [events, descendants]
      exact entered_eventsFrom (mk k p md cs) 0 cs

/-- The same for the children of one parent. -/
theorem entered_eventsFrom (parent : Node) :
    ∀ (i : Nat) (cs : List Node), entered (eventsFrom parent i cs) = descendantsIn cs
  | _, [] => by
      rw [eventsFrom, descendantsIn]
      rfl
  | i, c :: cs => by
      have below := entered_events c
      have rest := entered_eventsFrom parent (i + 1) cs
      simp only [eventsFrom, List.cons_append, entered_entering, entered_append, entered_leaving, below,
        rest, descendantsIn]

end

end Node

end Unmark
