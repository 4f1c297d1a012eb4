import Unmark.Tree.Load
import Unmark.Json.Write

/-
Module: Unmark.Tree.Dump
Layer: Tree
Purpose: Serialized trees. `Node.dump` is the object that describes a node: its type first, then the
  payload fields that are present, then its children and its metadata if there are any. `Node.toJson`
  and `Node.ofJson` go through JSON text.
Main exports: Node.dump, Node.toJson, Node.ofJson, JsonTreeError
-/

namespace Unmark

namespace Payload

/-- A present field as an entry, an absent one as none. -/
def entry {α : Type} (key : String) (wrap : α → Data) : Option α → Entries
  | none => []
  | some a => [(.str key, wrap a)]

/-- The entries of the present fields, in their fixed order. Empty strings and `false` are present. -/
def entries (p : Payload) : Entries :=
  entry "value" .str p.value ++ entry "url" .str p.url ++ entry "title" .str p.title
    ++ entry "alt" .str p.alt ++ entry "lang" .str p.lang ++ entry "identifier" .str p.identifier
    ++ entry "depth" .int p.depth ++ entry "start" .int p.start
    ++ entry "ordered" .bool p.ordered ++ entry "checked" .bool p.checked

end Payload

namespace Node

/-- The entry that holds the children, when there are any. -/
def childrenEntry : List Data → Entries
  | [] => []
  | ds => [(.str "children", .list ds)]

/-- The entry that holds the metadata, when there is any. -/
def metadataEntry : Entries → Entries
  | [] => []
  | es => [(.str "metadata", .map es)]

mutual

/-- The object that describes a node. -/
def dump : Node → Data
  | mk k p m cs =>
    .map ((.str "type", .str k.name) :: p.entries ++ childrenEntry (dumpAll cs) ++ metadataEntry m)

/-- The objects that describe a list of nodes. -/
def dumpAll : List Node → List Data
  | [] => []
  | n :: ns => dump n :: dumpAll ns

end

/-- The JSON text of a node. -/
def toJson (indent : Option Int) (n : Node) : Except Json.Unwritable String :=
  Json.write indent n.dump

end Node

/-- Why a text is not the JSON text of a tree. -/
inductive JsonTreeError where
  | text (fault : Json.Fault)
  | tree (error : LoadError)
deriving DecidableEq, Repr

/-- The tree that a value describes, if there is one. -/
def Node.ofRead : Except Json.Fault Data → Except JsonTreeError Node
  | .error fault => .error (.text fault)
  | .ok d =>
    match Node.load d with
    | .error e => .error (.tree e)
    | .ok n => .ok n

/-- The tree that a JSON text describes, with a plane for halves of surrogate pairs. -/
def Node.ofJsonWith (plane : Nat) (text : String) : Except JsonTreeError Node :=
  ofRead (Json.readWith plane text)

/-- The tree that a JSON text describes. -/
def Node.ofJson (text : String) : Except JsonTreeError Node := ofRead (Json.read text)

end Unmark
