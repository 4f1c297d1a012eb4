import Unmark.Data
import Unmark.Tree.Kind

/-
Module: Unmark.Tree.Node
Layer: Tree
Purpose: Document trees. A node has a kind, a payload of ten optional fields, metadata and children.
  Which fields a kind uses is a convention of the producers; the renderer insists only on the fields
  that it prints. Metadata is carried along and takes no part in the equality of nodes.
Main exports: Payload, Node, Node.beq, Node.digest, Node.size
-/

namespace Unmark

/-- The payload of a node. An absent field is `none`; an empty string and `false` are present. -/
structure Payload where
  value : Option String := none
  url : Option String := none
  title : Option String := none
  alt : Option String := none
  lang : Option String := none
  identifier : Option String := none
  depth : Option Int := none
  start : Option Int := none
  ordered : Option Bool := none
  checked : Option Bool := none
deriving DecidableEq, Repr, Inhabited, Hashable

/-- A document tree. -/
inductive Node where
  | mk (kind : Kind) (payload : Payload) (metadata : Entries) (children : List Node)
deriving Inhabited

namespace Node

/-- The kind of a node. -/
def kind : Node → Kind
  | mk k _ _ _ => k

/-- The payload of a node. -/
def payload : Node → Payload
  | mk _ p _ _ => p

/-- The metadata of a node. -/
def metadata : Node → Entries
  | mk _ _ m _ => m

/-- The children of a node, in document order. -/
def children : Node → List Node
  | mk _ _ _ cs => cs

@[simp] theorem kind_mk (k p m cs) : (mk k p m cs).kind = k := rfl
@[simp] theorem payload_mk (k p m cs) : (mk k p m cs).payload = p := rfl
@[simp] theorem metadata_mk (k p m cs) : (mk k p m cs).metadata = m := rfl
@[simp] theorem children_mk (k p m cs) : (mk k p m cs).children = cs := rfl

mutual

/-- Equality of nodes: kind, payload and children, at every depth. Metadata is not compared. -/
def beq : Node → Node → Bool
  | mk k p _ cs, mk k' p' _ cs' => k == k' && p == p' && beqAll cs cs'

/-- Pointwise equality of node lists. -/
def beqAll : List Node → List Node → Bool
  | [], [] => true
  | n :: ns, n' :: ns' => beq n n' && beqAll ns ns'
  | _, _ => false

end

instance : BEq Node := ⟨beq⟩

mutual

/-- A number that equal nodes share: kind, payload and children are mixed into it, metadata is not. -/
def digest : Node → UInt64
  | mk k p _ cs => mixHash (mixHash (hash k.name) (hash p)) (digestAll cs)

/-- The digest of a list of nodes. -/
def digestAll : List Node → UInt64
  | [] => 7
  | n :: ns => mixHash (digest n) (digestAll ns)

end

mutual

/-- The number of proper descendants of a node, counted by position. -/
def size : Node → Nat
  | mk _ _ _ cs => sizeAll cs

/-- The number of nodes in a forest. -/
def sizeAll : List Node → Nat
  | [] => 0
  | n :: ns => 1 + size n + sizeAll ns

end

end Node

end Unmark
