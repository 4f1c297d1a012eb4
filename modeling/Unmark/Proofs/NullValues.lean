import Mathlib.Data.List.Forall2
import Unmark.Proofs.HeapUnfolding
import Unmark.Proofs.ReadingAlike

/-
Module: Unmark.Proofs.NullValues
Layer: Proofs
Purpose: Null values in serialized trees. A tree without nulls has none of the recognised keys of a node whose
  value is null, at any node (`Data.withoutNulls`, `Heap.withoutNulls`). It is read as the tree with them, but
  for one thing: a null `metadata` hides the `data` next to it, which comes to light when the null is taken
  away. Where no object hides any data the outcome is the same, node for node and error for error; and where
  an object of a tree that can be read does, the outcome is another one.
Main exports: Load.withoutNulls, Data.withoutNulls, Heap.withoutNulls, Load.Hides, Object.Thinned,
  Heap.HidesNothing, Heap.mirrors_withoutNulls, load_withoutNulls
-/

namespace Unmark

open Load Relation

/-! ### Taking nulls away -/

/-- Whether the value under a key is null. -/
def Data.isNull (key : String) (es : Entries) : Bool :=
  match lookup key es with
  | some .null => true
  | _ => false

namespace Load

/-- Whether an entry is left when the recognised keys whose value is null are taken away. -/
def stays (es : Entries) : Data × Data → Bool
  | (.str key, _) => !(recognised.contains key && Data.isNull key es)
  | _ => true

/-- Entries without the recognised keys whose value is null. -/
def withoutNulls (es : Entries) : Entries := es.filter (stays es)

end Load

/-- Whether a key is that of the children. -/
def Data.isChildrenKey : Data → Bool
  | str key => key == "children"
  | _ => false

mutual

/-- A serialized tree without the recognised keys of its nodes whose value is null. -/
def Data.withoutNulls : Data → Data
  | .map es => .map (Load.withoutNulls (withoutNullsBelow es))
  | d => d

/-- Entries whose children are without nulls. -/
def Data.withoutNullsBelow : List (Data × Data) → List (Data × Data)
  | [] => []
  | (k, d) :: es => (k, withoutNullsUnder k d) :: withoutNullsBelow es

/-- The value under a key, without nulls if it is a list of children. -/
def Data.withoutNullsUnder (key : Data) : Data → Data
  | .list ds => .list (if key.isChildrenKey then withoutNullsAll ds else ds)
  | d => d

/-- The same for a list of trees. -/
def Data.withoutNullsAll : List Data → List Data
  | [] => []
  | d :: ds => withoutNulls d :: withoutNullsAll ds

end

/-- A child without nulls: a value is, and an address stays as it is. -/
def Child.withoutNulls : Child → Child
  | object a => .object a
  | value d => .value d.withoutNulls

def Children.withoutNulls : Children → Children
  | list cs => .list (cs.map Child.withoutNulls)
  | cs => cs

def Object.withoutNulls (o : Object) : Object := ⟨Load.withoutNulls o.entries, o.children.withoutNulls⟩

/-- A heap whose objects are without nulls. -/
def Heap.withoutNulls (heap : Heap) : Heap := heap.map Object.withoutNulls

/-! ### Lookups -/

namespace Data

variable {key : String} {es : Entries}

/-- A filter that looks at keys leaves the values under the keys that pass. -/
theorem lookup_filter {keep : Data × Data → Bool} {passes : String → Bool}
    (byKey : ∀ k v, keep (.str k, v) = passes k) (key : String) (es : Entries) :
    lookup key (es.filter keep) = if passes key then lookup key es else none := by
  induction es with
  | nil => simp [lookup]
  | cons e es ih =>
      obtain ⟨k, v⟩ := e
      cases k
      case str k =>
        rw [List.filter_cons, byKey, lookup_cons]
        by_cases here : k = key
        · subst here
          cases passed : passes k with
          | true => simp [lookup_cons]
          | false => simpa [passed] using ih
        · cases passes k with
          | true => simp [lookup_cons, here, ih]
          | false => simp [here, ih]
      all_goals
        rw [List.filter_cons]
        split <;> exact ih

/-- What is left under a recognised key is what is present there. -/
theorem lookup_withoutNulls (known : key ∈ recognised) :
    lookup key (Load.withoutNulls es) = present? key es := by
  have byKey (k : String) (v : Data) : stays es (.str k, v) = !(recognised.contains k && isNull k es) := rfl
  rw [Load.withoutNulls, lookup_filter byKey, List.contains_iff_mem.2 known, isNull, present?]
  cases lookup key es with
  | none => rfl
  | some d => cases d <;> rfl

theorem lookup_withoutNullsBelow (key : String) (es : Entries) :
    lookup key (withoutNullsBelow es) = (lookup key es).map (withoutNullsUnder (.str key)) := by
  induction es with
  | nil => simp [lookup, withoutNullsBelow]
  | cons e es ih =>
      obtain ⟨k, v⟩ := e
      rw [withoutNullsBelow]
      cases k
      case str k =>
        rw [lookup_cons, lookup_cons, ih]
        by_cases here : k = key
        · rw [if_pos here, if_pos here, here]
          rfl
        · rw [if_neg here, if_neg here]
      all_goals exact ih

theorem present?_withoutNullsBelow (key : String) (es : Entries) :
    present? key (withoutNullsBelow es) = (present? key es).map (withoutNullsUnder (.str key)) := by
  rw [present?, present?, lookup_withoutNullsBelow]
  cases lookup key es with
  | none => rfl
  | some d => cases d <;> rfl

/-- Under the other keys a tree stays as it is. -/
theorem withoutNullsUnder_of_ne (other : "children" ≠ key) (d : Data) :
    withoutNullsUnder (.str key) d = d := by
  have elsewhere : (Data.str key).isChildrenKey = false := beq_false_of_ne other.symm
  cases d
  case list ds => simp [withoutNullsUnder, elsewhere]
  all_goals rfl

theorem withoutNullsAll_eq (ds : List Data) : withoutNullsAll ds = ds.map withoutNulls := by
  induction ds with
  | nil => rfl
  | cons d ds ih => rw [withoutNullsAll, ih, List.map_cons]

/-- Where what is present is all there is to look up, the same is present. -/
theorem present?_of_lookup {es' : Entries} (thinned : lookup key es' = present? key es) :
    present? key es' = present? key es := by
  rw [present?, thinned, present?]
  cases lookup key es with
  | none => rfl
  | some d => cases d <;> rfl

theorem childrenOf_withoutNulls (es : Entries) :
    childrenOf (Load.withoutNulls (withoutNullsBelow es)) = (childrenOf es).withoutNulls := by
  rw [childrenOf_eq, childrenOf_eq, present?_of_lookup (lookup_withoutNulls (by decide)),
    present?_withoutNullsBelow]
  cases present? "children" es with
  | none => rfl
  | some d =>
      cases d
      case list ds =>
        have below : withoutNullsUnder (.str "children") (.list ds) = .list (ds.map withoutNulls) := by
          rw [withoutNullsUnder, withoutNullsAll_eq]
          rfl
        simp [below, Children.withoutNulls, Child.withoutNulls]
      all_goals rfl

end Data

/-! ### What the checks see of an object without nulls -/

/-- A null `metadata` hides the value of `data`, which would be seen otherwise. -/
def Load.Hides (es : Entries) : Prop :=
  Data.lookup "metadata" es = some .null ∧ ∃ d, Data.present? "data" es = some d ∧ d ≠ .map []

/-- An object that has the values of another, without the nulls. -/
structure Object.Thinned (o o' : Object) : Prop where
  entries : ∀ key ∈ recognised, "children" ≠ key → Data.lookup key o'.entries = Data.present? key o.entries
  children : o'.children = o.children.withoutNulls

namespace Object.Thinned

variable {o o' : Object}

theorem kindOf_eq (thinned : o.Thinned o') : kindOf o.entries = kindOf o'.entries := by
  rw [Load.kindOf_eq, Load.kindOf_eq,
    Data.present?_of_lookup (thinned.entries "type" (by decide) (by decide))]

theorem payloadOf_eq (thinned : o.Thinned o') : payloadOf o.entries = payloadOf o'.entries := by
  have others : ∀ key ∈ payloadTypes.map Prod.fst, key ∈ recognised ∧ "children" ≠ key := by decide
  refine payloadOf_congr fun key mem => ?_
  obtain ⟨known, other⟩ := others key mem
  exact (Data.present?_of_lookup (thinned.entries key known other)).symm

/-- The metadata is the same unless a null hides some of it. -/
theorem metadataOf_eq_iff (thinned : o.Thinned o') :
    metadataOf o.entries = metadataOf o'.entries ↔ ¬ Hides o.entries := by
  have metadata := thinned.entries "metadata" (by decide) (by decide)
  have data := thinned.entries "data" (by decide) (by decide)
  rw [metadataOf, metadataOf, metadata, data, Hides, Data.present?, Data.present?]
  cases Data.lookup "metadata" o.entries with
  | none =>
      cases Data.lookup "data" o.entries with
      | none => simp
      | some d => cases d <;> simp
  | some d =>
      cases d
      case null =>
        cases Data.lookup "data" o.entries with
        | none => simp
        | some d =>
            cases d
            case map fs => simp [eq_comm]
            all_goals simp
      all_goals simp

theorem items_eq (thinned : o.Thinned o') : o'.items = o.items.map Child.withoutNulls := by
  rw [Object.items, Object.items, thinned.children]
  cases o.children <;> rfl

end Object.Thinned

namespace Heap

variable {heap : Heap}

/-- Every object of a tree or heap has its counterpart without nulls. -/
theorem thinned_object? (heap : Heap) (c : Child) :
    Option.Rel Object.Thinned (heap.object? c) (heap.withoutNulls.object? c.withoutNulls) := by
  cases c with
  | object a =>
      have there : heap.withoutNulls.object? (Child.object a).withoutNulls =
          (heap[a]?).map Object.withoutNulls := List.getElem?_map
      rw [there, object?]
      cases heap[a]? with
      | none => exact .none
      | some o => exact .some ⟨fun key known _ => Data.lookup_withoutNulls known, rfl⟩
  | value d =>
      cases d
      case map es =>
        refine .some ⟨fun key known other => ?_, Data.childrenOf_withoutNulls es⟩
        have same : (Data.present? key es).map (Data.withoutNullsUnder (.str key)) = Data.present? key es := by
          rw [funext (Data.withoutNullsUnder_of_ne other), Option.map_id']
        exact (Data.lookup_withoutNulls known).trans ((Data.present?_withoutNullsBelow key es).trans same)
      all_goals exact .none

/-- No object within reach hides data. -/
def HidesNothing (heap : Heap) (c : Child) : Prop :=
  ∀ c', heap.Reaches c c' → ∀ o, heap.object? c' = some o → ¬ Hides o.entries

/-- Nothing is hidden by an object itself nor by what is below it. -/
theorem hidesNothing_iff {c : Child} : heap.HidesNothing c ↔
    ∀ o, heap.object? c = some o → ¬ Hides o.entries ∧ ∀ c' ∈ o.items, heap.HidesNothing c' := by
  constructor
  · intro seen o here
    exact ⟨seen c .refl o here, fun c' mem _ reached => seen _ (.head ⟨o, here, mem⟩ reached)⟩
  · intro each c' reached
    rcases ReflTransGen.cases_head reached with rfl | ⟨d, ⟨o, here, mem⟩, rest⟩
    · exact fun o here => (each o here).1
    · exact (each o here).2 d mem c' rest

/-- An object that hides nothing is read like its counterpart without nulls. -/
theorem thinned_alike {c : Child} {o o' : Object} (thinned : o.Thinned o') (here : heap.object? c = some o)
    (seen : heap.HidesNothing c) :
    Object.Alike (fun c c' => c' = c.withoutNulls ∧ heap.HidesNothing c) o o' := by
  obtain ⟨shown, items⟩ := hidesNothing_iff.1 seen o here
  refine Object.alike_of_agree
    ⟨thinned.kindOf_eq, thinned.payloadOf_eq, thinned.metadataOf_eq_iff.2 shown⟩ ?_
  rw [thinned.children]
  cases listed : o.children with
  | none => exact .none
  | other found => exact .other found
  | list cs =>
      refine .list (List.forall₂_map_right_iff.2 (List.forall₂_same.2 fun c' mem => ⟨rfl, ?_⟩))
      exact items c' (by rwa [Object.items, listed])

/-- Where nothing is hidden, what is without nulls is read alike. -/
theorem mirrors_withoutNulls (heap : Heap) :
    heap.Mirrors heap.withoutNulls fun c c' => c' = c.withoutNulls ∧ heap.HidesNothing c where
  typeName := by
    rintro c _ ⟨rfl, _⟩
    cases c with
    | object a => rfl
    | value d => cases d <;> rfl
  isActive := by
    rintro c _ ⟨rfl, _⟩ active
    cases c <;> rfl
  enter := by
    rintro c _ ⟨rfl, _⟩ active
    cases c <;> rfl
  object := by
    rintro c _ ⟨rfl, seen⟩
    have thinned := heap.thinned_object? c
    generalize heap.withoutNulls.object? c.withoutNulls = there at thinned ⊢
    cases here : heap.object? c with
    | none =>
        rw [here] at thinned
        cases thinned
        exact .none
    | some o =>
        rw [here] at thinned
        cases thinned with
        | @some _ o' thinned => exact .some (thinned_alike thinned here seen)

/-- When a tree is read and comes out the same without nulls, nothing in it is hidden. -/
theorem hidesNothing_of_loadChild_eq (active : List Nat) (c : Child) :
    ∀ path n, heap.loadChild active path c = .ok n →
      heap.withoutNulls.loadChild active path c.withoutNulls = .ok n → heap.HidesNothing c := by
  induction active, c using heap.load_induction with
  | step active c ih =>
      intro path n read read'
      obtain ⟨o, ns, here, idle, meets, below, rfl⟩ := heap.loadChild_eq_ok_iff.1 read
      obtain ⟨o', ns', here', _, meets', below', same⟩ := heap.withoutNulls.loadChild_eq_ok_iff.1 read'
      have thinned := heap.thinned_object? c
      rw [here, here', Option.rel_some_some] at thinned
      simp only [nodeOf, Node.mk.injEq] at same
      obtain ⟨-, -, metadata, rfl⟩ := same
      refine hidesNothing_iff.2 fun o'' found => ?_
      obtain rfl := Option.some.inj (here.symm.trans found)
      constructor
      · refine thinned.metadataOf_eq_iff.1 ?_
        rw [metadataOf_eq_ok_iff.2 ⟨meets.entries.metadata, metadata.symm⟩,
          metadataOf_eq_ok_iff.2 ⟨meets'.entries.metadata, rfl⟩]
      · intro c' mem
        obtain ⟨i, h, rfl⟩ := List.getElem_of_mem mem
        rw [thinned.items_eq] at below'
        obtain ⟨size, each⟩ := heap.loadChildren_eq_ok_iff.1 below
        obtain ⟨_, each'⟩ := heap.withoutNulls.loadChildren_eq_ok_iff.1 below'
        have item := each i h (size ▸ h)
        have item' := each' i (by simpa using h) (size ▸ h)
        have entered : c.withoutNulls.enter active = c.enter active := by cases c <;> rfl
        rw [List.getElem_map, entered] at item'
        exact ih o here idle _ mem _ _ item item'

/-- Without nulls a tree comes to the same node or to the same error at the same path, and so does a heap, as
    long as no null `metadata` hides the `data` next to it. When one does, in a tree that can be read, the outcome
    is another one. -/
theorem loadChild_withoutNulls (heap : Heap) (c : Child) :
    (heap.HidesNothing c → heap.withoutNulls.loadChild [] [] c.withoutNulls = heap.loadChild [] [] c) ∧
    ∀ n, heap.loadChild [] [] c = .ok n →
      (heap.withoutNulls.loadChild [] [] c.withoutNulls = .ok n ↔ heap.HidesNothing c) := by
  have same (seen : heap.HidesNothing c) :=
    (heap.loadChild_eq_of_mirrors heap.mirrors_withoutNulls [] c c.withoutNulls [] ⟨rfl, seen⟩).symm
  exact ⟨same, fun n read =>
    ⟨hidesNothing_of_loadChild_eq [] c [] n read, fun seen => (same seen).trans read⟩⟩

end Heap

/-- Taking away the recognised keys whose value is null, at every node, leaves the outcome of reading a tree as
    it is, node for node or as the same error at the same path, as long as no null `metadata` hides the `data`
    next to it; and a tree that can be read comes out the same only then. So it is for values and for heaps. -/
theorem load_withoutNulls (d : Data) (heap : Heap) (root : Nat) :
    (Heap.HidesNothing [] (.value d) → Node.load d.withoutNulls = Node.load d) ∧
    (∀ n, Node.load d = .ok n → (Node.load d.withoutNulls = .ok n ↔ Heap.HidesNothing [] (.value d))) ∧
    (heap.HidesNothing (.object root) → heap.withoutNulls.load root = heap.load root) ∧
    (∀ n, heap.load root = .ok n → (heap.withoutNulls.load root = .ok n ↔ heap.HidesNothing (.object root))) := by
  obtain ⟨value, valueIff⟩ := Heap.loadChild_withoutNulls [] (.value d)
  obtain ⟨object, objectIff⟩ := heap.loadChild_withoutNulls (.object root)
  exact ⟨value, valueIff, object, objectIff⟩

/-- A child of which only nulls are taken away, and an object that contains itself. -/
theorem load_withoutNulls_of_null_child :
    let d : Data := .map [(.str "type", .str "root"), (.str "metadata", .null), (.str "children", .list
      [.map [(.str "type", .str "text"), (.str "value", .null), (.str "data", .null)]])]
    let heap : Heap := [⟨[(.str "type", .str "root"), (.str "depth", .null)], .list [.object 0]⟩]
    Heap.HidesNothing [] (.value d) ∧ Node.load d.withoutNulls = Node.load d ∧
    heap.HidesNothing (.object 0) ∧ heap.withoutNulls.load 0 = heap.load 0 := by
  intro d heap
  obtain ⟨load, -, loadHeap, -⟩ := load_withoutNulls d heap 0
  have value : Heap.HidesNothing [] (.value d) := by
    refine Heap.hidesNothing_iff.2 ?_
    rintro _ ⟨⟩
    refine ⟨fun hides => ?_, fun c mem => Heap.hidesNothing_iff.2 ?_⟩
    · obtain ⟨_, _, found, _⟩ := hides
      cases found
    · obtain rfl := List.mem_singleton.1 mem
      rintro _ ⟨⟩
      refine ⟨fun hides => ?_, fun c mem => ?_⟩
      · cases hides.1
      · cases mem
  have object : heap.HidesNothing (.object 0) := by
    intro c reached
    have itself : c = .object 0 := by
      induction reached with
      | refl => rfl
      | tail _ edge ih =>
          subst ih
          obtain ⟨_, ⟨⟩, mem⟩ := edge
          exact List.mem_singleton.1 mem
    subst itself
    rintro _ ⟨⟩ hides
    cases hides.1
  exact ⟨value, load value, object, loadHeap object⟩

/-- A null `metadata` whose removal brings `data` to light. -/
theorem load_hidden_data :
    let d : Data := .map [(.str "type", .str "root"), (.str "metadata", .null),
      (.str "data", .map [(.str "a", .int 1)])]
    Node.load d = .ok (.mk (.tag .root) {} [] []) ∧
    Node.load d.withoutNulls = .ok (.mk (.tag .root) {} [(.str "a", .int 1)] []) ∧
    Node.load d.withoutNulls ≠ Node.load d := by
  intro d
  have hidden : Node.load d = .ok (.mk (.tag .root) {} [] []) := by
    rw [Node.load, Node.loadAt]
    rfl
  have shown : Node.load d.withoutNulls = .ok (.mk (.tag .root) {} [(.str "a", .int 1)] []) := by
    have left : d.withoutNulls = .map [(.str "type", .str "root"), (.str "data", .map [(.str "a", .int 1)])] := rfl
    rw [left, Node.load, Node.loadAt]
    rfl
  refine ⟨hidden, shown, ?_⟩
  rw [hidden, shown]
  simp

end Unmark
