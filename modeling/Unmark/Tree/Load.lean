import Unmark.Tree.Node

/-
Module: Unmark.Tree.Load
Layer: Tree
Purpose: Reading a serialized tree. A node is an object with a `type`; its other recognised keys are
  `children`, the ten payload fields and `metadata` (or `data`, where `metadata` is missing). Keys that
  are not recognised are ignored. What is wrong with an object is a `Defect`; the first one in load
  order is reported together with the steps that lead to it from the root. An object's own shape is
  checked before its children are read, its payload and metadata after all of them.
  Two inputs are read: a value (`Node.load`), and a heap of objects that refer to each other
  (`Heap.load`), where an object may be shared and may even contain itself. Sharing is unfolded; a cycle
  is a defect.
Main exports: Defect, LoadError, LoadError.message, Node.load, Heap, Heap.load
-/

namespace Unmark

/-- What can be wrong with a serialized node. Types are given by the words of `Data.typeName`. -/
inductive Defect where
  | notAnObject (found : String)
  | cycle
  | missingType
  | childrenNotAList (found : String)
  | wrongField (key expected found : String)
  | metadataNotAnObject
deriving DecidableEq, Repr

namespace Defect

/-- The wording of a defect. -/
def message : Defect → String
  | notAnObject found => s!"Expected a node object, got {found}"
  | cycle => "Cycle detected in tree input"
  | missingType => "Node is missing a 'type' string"
  | childrenNotAList found => s!"'children' must be a list, got {found}"
  | wrongField key expected found => s!"Field '{key}' must be {expected}, got {found}"
  | metadataNotAnObject => "'metadata' must be an object"

end Defect

/-- The text of a path: the root, then one child position per step. -/
def pathText (path : List Nat) : String :=
  path.foldl (fun text i => text ++ s!".children[{i}]") "root"

/-- A defect and the path of the object that has it. -/
structure LoadError where
  defect : Defect
  path : List Nat
deriving DecidableEq, Repr

/-- The wording of a load error: the defect, and where it is. -/
def LoadError.message (e : LoadError) : String := s!"{e.defect.message} (at {pathText e.path})"

namespace Load

/-!
## The checks on one object

Each check looks at the entries of one object alone. A key whose value is null counts as missing, with
one exception: a null `metadata` still hides `data`.
-/

/-- The kind that an object names. -/
def kindOf (es : Entries) : Except Defect Kind :=
  match Data.lookup "type" es with
  | some (.str s) => if s = "" then .error .missingType else .ok (Kind.resolve s)
  | _ => .error .missingType

/-- A field of one type. `read` picks the values of that type, which messages call `expected`. -/
def field {α : Type} (expected : String) (read : Data → Option α) (es : Entries) (key : String) :
    Except Defect (Option α) :=
  match Data.lookup key es with
  | none | some .null => .ok none
  | some d =>
    match read d with
    | some a => .ok (some a)
    | none => .error (.wrongField key expected d.typeName)

/-- A string field. -/
def stringField : Entries → String → Except Defect (Option String) := field "str" Data.string?

/-- An integer field; a truth value is not an integer. -/
def intField : Entries → String → Except Defect (Option Int) := field "int" Data.int?

/-- A truth-valued field. -/
def boolField : Entries → String → Except Defect (Option Bool) := field "bool" Data.bool?

/-- The payload of an object. The fields are checked in the order in which they are listed here. -/
def payloadOf (es : Entries) : Except Defect Payload := do
  let value ← stringField es "value"
  let url ← stringField es "url"
  let title ← stringField es "title"
  let alt ← stringField es "alt"
  let lang ← stringField es "lang"
  let identifier ← stringField es "identifier"
  let depth ← intField es "depth"
  let start ← intField es "start"
  let ordered ← boolField es "ordered"
  let checked ← boolField es "checked"
  return { value, url, title, alt, lang, identifier, depth, start, ordered, checked }

/-- The metadata of an object: its `metadata`, or its `data` when the key `metadata` is missing. -/
def metadataOf (es : Entries) : Except Defect Entries :=
  match (Data.lookup "metadata" es).or (Data.lookup "data" es) with
  | none | some .null => .ok []
  | some (.map fs) => .ok fs
  | some _ => .error .metadataNotAnObject

/-- The checks that follow the children, and the node that passes them. -/
def finish (kind : Kind) (es : Entries) (children : List Node) : Except Defect Node := do
  let payload ← payloadOf es
  let metadata ← metadataOf es
  return .mk kind payload metadata children

/-- Places a defect. -/
def located {α : Type} (path : List Nat) : Except Defect α → Except LoadError α
  | .ok a => .ok a
  | .error d => .error ⟨d, path⟩

end Load

theorem Data.sizeOf_lookup_lt {key : String} {es : Entries} {d : Data}
    (h : Data.lookup key es = some d) : sizeOf d < sizeOf es := by
  fun_induction Data.lookup key es with
  | case1 => simp at h
  | case2 v rest => simp_all; omega
  | case3 k v rest hk ih => have := ih h; simp; omega
  | case4 e rest _ ih => have := ih h; simp; omega

namespace Node

open Load

mutual

/-- Reads the node that a value describes. `path` is where the value stands. -/
def loadAt (path : List Nat) (d : Data) : Except LoadError Node :=
  match d with
  | .map es =>
    match kindOf es with
    | .error defect => .error ⟨defect, path⟩
    | .ok kind =>
      match _h : Data.lookup "children" es with
      | none | some .null => located path (finish kind es [])
      | some (.list items) =>
        match loadFrom path 0 items with
        | .error e => .error e
        | .ok children => located path (finish kind es children)
      | some other => .error ⟨.childrenNotAList other.typeName, path⟩
  | other => .error ⟨.notAnObject other.typeName, path⟩
termination_by sizeOf d
decreasing_by
  have := Data.sizeOf_lookup_lt _h
  simp_all
  omega

/-- Reads the children of the object at `path`, the first of which has position `index`. -/
def loadFrom (path : List Nat) (index : Nat) (items : List Data) : Except LoadError (List Node) :=
  match items with
  | [] => .ok []
  | d :: rest =>
    match loadAt (path ++ [index]) d with
    | .error e => .error e
    | .ok n =>
      match loadFrom path (index + 1) rest with
      | .error e => .error e
      | .ok ns => .ok (n :: ns)
termination_by sizeOf items

end

/-- Reads the tree that a value describes. -/
def load (d : Data) : Except LoadError Node := loadAt [] d

end Node

/-!
## Objects that refer to each other

In a heap an object is named by its address, and the children of an object are addresses, or values
that nothing else refers to. The addresses of the objects being read form the active path; an object that is
met again while it is active contains itself.
-/

/-- A child of a heap object: another object, or a value of its own. -/
inductive Child where
  | object (address : Nat)
  | value (d : Data)
deriving Inhabited

/-- What an object has under its `children` key. -/
inductive Children where
  | none
  | list (items : List Child)
  | other (found : String)
deriving Inhabited

/-- A heap object: its children, and its other entries. -/
structure Object where
  entries : Entries
  children : Children
deriving Inhabited

/-- Objects by address. -/
abbrev Heap := List Object

namespace Heap

open Load

/-- The number of addresses that are not active: what is left for a path to go through. -/
def idle (heap : Heap) (active : List Nat) : Nat :=
  (List.range heap.length).countP fun a => !active.contains a

theorem idle_cons_lt {heap : Heap} {active : List Nat} {a : Nat} (ha : a < heap.length)
    (hn : active.contains a = false) : heap.idle (a :: active) < heap.idle active := by
  unfold idle
  have key : ∀ l : List Nat, a ∈ l →
      l.countP (fun b => !(a :: active).contains b) < l.countP (fun b => !active.contains b) := by
    intro l hl
    induction l with
    | nil => simp at hl
    | cons b l ih =>
      have mono : l.countP (fun b => !(a :: active).contains b)
          ≤ l.countP (fun b => !active.contains b) :=
        List.countP_mono_left fun x _ hx => by simp_all
      by_cases hb : b = a
      · have taken : (!(a :: active).contains a) = false := by simp
        have free : (!active.contains a) = true := by rw [hn]; rfl
        rw [hb, List.countP_cons, List.countP_cons, if_neg (by rw [taken]; decide), if_pos free]
        omega
      · have hl' : a ∈ l := by
          cases hl with
          | head => exact absurd rfl hb
          | tail _ h => exact h
        have := ih hl'
        simp only [List.countP_cons]
        have hba : (a :: active).contains b = active.contains b := by
          simp [hb]
        rw [hba]
        omega
  exact key _ (List.mem_range.2 ha)

mutual

/-- Reads the node at an address. -/
def loadObject (heap : Heap) (active : List Nat) (path : List Nat) (address : Nat) :
    Except LoadError Node :=
  if hin : address < heap.length then
    if hact : active.contains address then .error ⟨.cycle, path⟩
    else
      let object := heap[address]
      match kindOf object.entries with
      | .error defect => .error ⟨defect, path⟩
      | .ok kind =>
        match object.children with
        | .none => located path (finish kind object.entries [])
        | .list items =>
          match loadChildren heap (address :: active) path 0 items with
          | .error e => .error e
          | .ok children => located path (finish kind object.entries children)
        | .other found => .error ⟨.childrenNotAList found, path⟩
  else .error ⟨.notAnObject "NoneType", path⟩
termination_by (heap.idle active, 0)
decreasing_by
  exact Prod.Lex.left _ _ (idle_cons_lt hin (by simpa using hact))

/-- Reads the children of the object at `path`, the first of which has position `index`. -/
def loadChildren (heap : Heap) (active : List Nat) (path : List Nat) (index : Nat)
    (items : List Child) : Except LoadError (List Node) :=
  match items with
  | [] => .ok []
  | child :: rest =>
    let first : Except LoadError Node :=
      match child with
      | .object a => loadObject heap active (path ++ [index]) a
      | .value d => Node.loadAt (path ++ [index]) d
    match first with
    | .error e => .error e
    | .ok n =>
      match loadChildren heap active path (index + 1) rest with
      | .error e => .error e
      | .ok ns => .ok (n :: ns)
termination_by (heap.idle active, items.length + 1)
decreasing_by
  all_goals simp_wf
  all_goals exact Prod.Lex.right _ (by omega)

end

/-- Reads the tree below an address. -/
def load (heap : Heap) (address : Nat) : Except LoadError Node := loadObject heap [] [] address

end Heap

end Unmark
