import Unmark.Tree.Node

/-
Module: Unmark.Tree.Walk
Layer: Tree
Purpose: The traversal of a tree. Every proper descendant of the root is reported twice, once when it is
  entered and once when it is left, together with its parent and its position among the parent's
  children. Positions count, not identities: a subtree that stands at several places is reported at
  each of them. `walk` drives an action over the reports, `events` lists them.
Main exports: Event, walk, events
-/

namespace Unmark

/-- A report of the traversal. -/
structure Event where
  node : Node
  parent : Node
  index : Nat
  entering : Bool
deriving Inhabited

namespace Node

mutual

/-- Runs an action on the reports about a node at a position of its parent: the node is entered, what
    stands below it is gone through, and the node is left. -/
def walkAt {m : Type → Type} [Monad m] (visit : Event → m Unit) (parent : Node) (index : Nat) :
    Node → m Unit
  | mk k p md cs => do
    visit ⟨mk k p md cs, parent, index, true⟩
    walkFrom visit (mk k p md cs) 0 cs
    visit ⟨mk k p md cs, parent, index, false⟩

/-- The part of a traversal that covers the children of `parent` from position `index` on. -/
def walkFrom {m : Type → Type} [Monad m] (visit : Event → m Unit) (parent : Node) :
    Nat → List Node → m Unit
  | _, [] => pure ()
  | i, c :: cs => do
    walkAt visit parent i c
    walkFrom visit parent (i + 1) cs

end

/-- Runs an action on every report of a traversal below `root`, in document order. The root itself is
    not reported. -/
def walk {m : Type → Type} [Monad m] (visit : Event → m Unit) (root : Node) : m Unit :=
  walkFrom visit root 0 root.children

mutual

/-- The reports of a traversal below a node, in document order. -/
def events : Node → List Event
  | mk k p md cs => eventsFrom (mk k p md cs) 0 cs

/-- The reports that cover the children of `parent` from position `index` on. -/
def eventsFrom (parent : Node) : Nat → List Node → List Event
  | _, [] => []
  | i, c :: cs =>
    ⟨c, parent, i, true⟩ :: events c ++ ⟨c, parent, i, false⟩ :: eventsFrom parent (i + 1) cs

end

end Node

end Unmark
