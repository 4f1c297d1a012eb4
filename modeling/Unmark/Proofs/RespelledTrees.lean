import Mathlib.Logic.Relation
import Unmark.Proofs.NamedValues
import Unmark.Proofs.ReadingAlike

/-
Module: Unmark.Proofs.RespelledTrees
Layer: Proofs
Purpose: What the spelling of a serialized tree has no part in. An object may have its keys in another order,
  it may have further keys that reading does not look for, and its type may be written in either of the two
  spellings of its kind; each is one step of rewriting (`Load.Rewritten`), which may be made at any node of a
  value or of a heap. Rewriting changes nothing under the recognised keys but the spelling of a type, so an
  input that is rewritten in any number of steps, there and back, is read alike.
Main exports: Data.lookup_of_perm, Load.Rewritten, Data.Rewritten, Heap.Rewritten, mirrors_of_rewritten,
  load_eq_of_rewritten
-/

namespace Unmark

open Load Relation

namespace Data

/-! ### Lookups in rewritten entries -/

theorem lookup_eq_get?_fields (key : String) (es : Entries) : lookup key es = (fields es).get? key := by
  induction es with
  | nil => rfl
  | cons e es ih =>
      obtain ⟨k, v⟩ := e
      cases k
      case str k => rw [lookup_cons, fields, Fields.get?_cons, ih]
      all_goals exact ih

/-- An entry under a string key, as a field. -/
def field? : Data × Data → Option (String × Data)
  | (.str k, v) => some (k, v)
  | _ => none

theorem fields_eq_filterMap (es : Entries) : fields es = es.filterMap field? := by
  induction es with
  | nil => rfl
  | cons e es ih =>
      obtain ⟨k, v⟩ := e
      cases k
      case str k =>
        rw [fields, ih]
        rfl
      all_goals exact ih

/-- Where each key stands once, the order of the entries does not matter. -/
theorem lookup_of_perm {es es' : Entries} (order : es.Perm es')
    (distinct : ((fields es').map Prod.fst).Nodup) (key : String) : lookup key es = lookup key es' := by
  rw [lookup_eq_get?_fields, lookup_eq_get?_fields]
  have order' : (fields es).Perm (fields es') := by
    rw [fields_eq_filterMap, fields_eq_filterMap]
    exact order.filterMap field?
  exact Fields.get?_eq_of_perm order' distinct key

/-- An entry under another key does not matter. -/
theorem lookup_insert_of_ne {k : Data} {key : String} (other : k ≠ .str key) (front back : Entries)
    (v : Data) : lookup key (front ++ (k, v) :: back) = lookup key (front ++ back) := by
  rw [lookup_append, lookup_append]
  cases k
  case str k =>
    have differs : k ≠ key := fun same => other (congrArg Data.str same)
    rw [lookup_cons, if_neg differs]
  all_goals rfl

/-- The value of an entry matters to the lookup of its key alone. -/
theorem lookup_replace_of_ne {k key : String} (other : k ≠ key) (front back : Entries) (v v' : Data) :
    lookup key (front ++ (.str k, v) :: back) = lookup key (front ++ (.str k, v') :: back) := by
  rw [lookup_append, lookup_append, lookup_cons, lookup_cons, if_neg other, if_neg other]

/-- The value of an entry is found under its key, unless another entry in front of it is. -/
theorem lookup_here (k : String) (front back : Entries) (v : Data) :
    lookup k (front ++ (.str k, v) :: back) = (lookup k front).or (some v) := by
  rw [lookup_append, lookup_cons, if_pos rfl]

end Data

theorem Kind.resolve_mdastName (t : Tag) : resolve t.mdastName = .tag t := by cases t <;> rfl

theorem Kind.mdastName_ne_empty (t : Tag) : t.mdastName ≠ "" := by cases t <;> decide

/-! ### Rewriting -/

/-- One step of rewriting the entries of an object: their order, an entry that reading does not look for, or
    the other spelling of the type. -/
inductive Load.Rewritten : Entries → Entries → Prop where
  | reordered {es es' : Entries} (distinct : ((Data.fields es').map Prod.fst).Nodup) (order : es.Perm es') :
      Rewritten es es'
  | extended (front back : Entries) {k : Data} (unknown : ∀ key ∈ recognised, k ≠ .str key) (v : Data) :
      Rewritten (front ++ back) (front ++ (k, v) :: back)
  | respelled (front back : Entries) (t : Tag) :
      Rewritten (front ++ (.str "type", .str t.name) :: back)
        (front ++ (.str "type", .str t.mdastName) :: back)

/-- One step of rewriting a serialized tree, at its root or at a node below it. -/
inductive Data.Rewritten : Data → Data → Prop where
  | here {es es' : Entries} (step : Load.Rewritten es es') : Rewritten (.map es) (.map es')
  | inside (front back : Entries) (earlier later : List Data) {d d' : Data} (step : Rewritten d d') :
      Rewritten (.map (front ++ (.str "children", .list (earlier ++ d :: later)) :: back))
        (.map (front ++ (.str "children", .list (earlier ++ d' :: later)) :: back))

/-- One step of rewriting a heap: the entries of an object, or a value among its children. -/
inductive Heap.Rewritten : Heap → Heap → Prop where
  | entries (front back : Heap) (children : Children) {es es' : Entries} (step : Load.Rewritten es es') :
      Rewritten (front ++ ⟨es, children⟩ :: back) (front ++ ⟨es', children⟩ :: back)
  | child (front back : Heap) (es : Entries) (earlier later : List Child) {d d' : Data}
      (step : Data.Rewritten d d') :
      Rewritten (front ++ ⟨es, .list (earlier ++ .value d :: later)⟩ :: back)
        (front ++ ⟨es, .list (earlier ++ .value d' :: later)⟩ :: back)

/-! ### A step keeps what is read -/

namespace Load

/-- A step keeps the value under every recognised key but the type. -/
theorem Rewritten.lookup_eq {es es' : Entries} (step : Rewritten es es') {key : String}
    (known : key ∈ recognised) (other : "type" ≠ key) : Data.lookup key es = Data.lookup key es' := by
  cases step with
  | reordered distinct order => exact Data.lookup_of_perm order distinct key
  | extended front back unknown v => exact (Data.lookup_insert_of_ne (unknown key known) front back v).symm
  | respelled front back t => exact Data.lookup_replace_of_ne other front back _ _

theorem kindOf_congr {es es' : Entries} (same : Data.lookup "type" es = Data.lookup "type" es') :
    kindOf es = kindOf es' := by
  rw [kindOf, kindOf, same]

/-- A step keeps the kind. -/
theorem Rewritten.kindOf_eq {es es' : Entries} (step : Rewritten es es') : kindOf es = kindOf es' := by
  cases step with
  | reordered distinct order => exact kindOf_congr (Data.lookup_of_perm order distinct "type")
  | extended front back unknown v =>
      exact kindOf_congr (Data.lookup_insert_of_ne (unknown "type" (by decide)) front back v).symm
  | respelled front back t =>
      cases hidden : Data.lookup "type" front with
      | some d => exact kindOf_congr (by simp [Data.lookup_here, hidden])
      | none =>
          simp [kindOf, Data.lookup_here, hidden, Kind.name_ne_empty, Kind.mdastName_ne_empty,
            Kind.resolve_name, Kind.resolve_mdastName]

theorem Rewritten.agree {es es' : Entries} (step : Rewritten es es') : Agree es es' := by
  have others : ∀ key ∈ "metadata" :: "data" :: payloadTypes.map Prod.fst, key ∈ recognised ∧ "type" ≠ key := by
    decide
  refine agree_of_lookup step.kindOf_eq fun key mem => ?_
  obtain ⟨known, other⟩ := others key mem
  exact step.lookup_eq known other

end Load

/-- Children of two inputs that are the same, or that are values of which one is a rewriting of the other. -/
inductive Child.Corresponds : Child → Child → Prop where
  | same (c : Child) : Corresponds c c
  | rewritten {d d' : Data} (step : Data.Rewritten d d') : Corresponds (.value d) (.value d')

open Child (Corresponds)

theorem corresponding_refl (cs : List Child) : List.Forall₂ Corresponds cs cs :=
  List.forall₂_same.2 fun c _ => .same c

/-- A list in which one item is exchanged. -/
theorem corresponding_exchanged {c c' : Child} (exchanged : Corresponds c c') (earlier later : List Child) :
    List.Forall₂ Corresponds (earlier ++ c :: later) (earlier ++ c' :: later) :=
  List.rel_append (corresponding_refl earlier) (.cons exchanged (corresponding_refl later))

theorem Children.alike_refl (cs : Children) : Children.Alike Corresponds cs cs := by
  cases cs with
  | none => exact .none
  | list items => exact .list (corresponding_refl items)
  | other found => exact .other found

/-- An object looks the same to itself. -/
theorem Object.alike_refl (o : Object) : Object.Alike Corresponds o o :=
  Object.alike_of_agree ⟨rfl, rfl, rfl⟩ (Children.alike_refl o.children)

/-- A value and its rewriting are objects that are read alike. -/
theorem Data.Rewritten.alike {es es' : Entries} (step : Data.Rewritten (.map es) (.map es')) :
    Object.Alike Corresponds ⟨es, childrenOf es⟩ ⟨es', childrenOf es'⟩ := by
  cases step with
  | here step =>
      have same : childrenOf es = childrenOf es' := by
        rw [childrenOf, childrenOf, step.lookup_eq (by decide) (by decide)]
      rw [same]
      exact Object.alike_of_agree step.agree (Children.alike_refl _)
  | inside front back earlier later step =>
      rename_i d d'
      refine Object.alike_of_agree ?_ ?_
      · have others : ∀ key ∈ "type" :: "metadata" :: "data" :: payloadTypes.map Prod.fst,
            "children" ≠ key := by decide
        have same := fun key mem => Data.lookup_replace_of_ne (others key mem) front back
          (.list (earlier ++ d :: later)) (.list (earlier ++ d' :: later))
        refine agree_of_lookup (kindOf_congr (same "type" List.mem_cons_self)) fun key mem => ?_
        exact same key (List.mem_cons_of_mem _ mem)
      · rw [childrenOf, childrenOf, Data.lookup_here, Data.lookup_here]
        cases hidden : Data.lookup "children" front with
        | some d => exact Children.alike_refl _
        | none =>
            rw [Option.none_or, Option.none_or]
            simp only [List.map_append, List.map_cons]
            exact .list (corresponding_exchanged (.rewritten step) _ _)

namespace Heap

variable {heap heap' : Heap}

theorem rel_getElem? {α β : Type} {r : α → β → Prop} {as : List α} {bs : List β}
    (each : List.Forall₂ r as bs) (i : Nat) : Option.Rel r as[i]? bs[i]? := by
  induction each generalizing i with
  | nil => exact .none
  | cons first _ ih =>
      cases i with
      | zero => exact .some first
      | succ i => exact ih i

/-- Heaps whose objects are read alike, address by address, mirror each other. -/
theorem mirrors_of_alike
    (objects : List.Forall₂ (Object.Alike Corresponds) heap heap') :
    heap.Mirrors heap' Corresponds where
  typeName corresponds := by
    cases corresponds with
    | same => rfl
    | rewritten step => cases step <;> rfl
  isActive corresponds _ := by cases corresponds <;> rfl
  enter corresponds _ := by cases corresponds <;> rfl
  object corresponds := by
    cases corresponds with
    | same =>
        rename_i c
        cases c with
        | object a => exact rel_getElem? objects a
        | value d =>
            cases d
            case map es => exact .some (Object.alike_refl _)
            all_goals exact .none
    | rewritten step =>
        cases step with
        | here step => exact .some (Data.Rewritten.here step).alike
        | inside front back earlier later step =>
            exact .some (Data.Rewritten.inside front back earlier later step).alike

theorem alikes_refl (heap : Heap) : List.Forall₂ (Object.Alike Corresponds) heap heap :=
  List.forall₂_same.2 fun o _ => o.alike_refl

/-- Heaps that differ in one object mirror each other if this one is read alike. -/
theorem mirrors_exchanged {o o' : Object} (alike : Object.Alike Corresponds o o') (front back : Heap) :
    Heap.Mirrors (front ++ o :: back) (front ++ o' :: back) Corresponds :=
  mirrors_of_alike (List.rel_append (alikes_refl front) (.cons alike (alikes_refl back)))

theorem Rewritten.mirrors (step : Rewritten heap heap') : heap.Mirrors heap' Corresponds := by
  cases step with
  | entries front back children step =>
      exact mirrors_exchanged (Object.alike_of_agree step.agree (Children.alike_refl children)) front back
  | child front back es earlier later step =>
      exact mirrors_exchanged (Object.alike_of_agree ⟨rfl, rfl, rfl⟩
        (.list (corresponding_exchanged (.rewritten step) earlier later))) front back

end Heap

/-- Two serialized trees that differ at any number of nodes in the order of keys, in keys that reading does not
    look for and in the spelling of types come to the same tree, metadata included, or to the same error at
    the same path. So do two heaps that differ in this way at any number of their objects. -/
theorem load_eq_of_rewritten :
    (∀ d d' : Data, EqvGen Data.Rewritten d d' → Node.load d = Node.load d') ∧
    ∀ (heap heap' : Heap) (root : Nat), EqvGen Heap.Rewritten heap heap' →
      heap.load root = heap'.load root := by
  constructor
  · intro d d' steps
    refine congrArg (Quot.lift Node.load fun d d' step => ?_) (Quot.eqvGen_sound steps)
    exact Heap.loadChild_eq_of_mirrors (Heap.mirrors_of_alike .nil) [] (.value d) (.value d') [] (.rewritten step)
  · intro heap heap' root steps
    refine congrArg (Quot.lift (Heap.load · root) fun heap heap' step => ?_) (Quot.eqvGen_sound steps)
    exact Heap.loadChild_eq_of_mirrors step.mirrors [] (.object root) (.object root) [] (.same _)

/-- Struck-out text under its other name, with a position and with its keys in another order. -/
theorem load_struckOut_eq :
    let d : Data := .map [(.str "type", .str "root"), (.str "children", .list
      [.map [(.str "type", .str "delete"), (.str "position", .int 1), (.str "value", .str "x")]])]
    let d' : Data := .map [(.str "children", .list
      [.map [(.str "type", .str "strikethrough"), (.str "value", .str "x")]]), (.str "type", .str "root")]
    let heap : Heap := [⟨[(.str "type", .str "html")], .list [.object 0]⟩]
    let heap' : Heap := [⟨[(.str "type", .str "raw_html")], .list [.object 0]⟩]
    EqvGen Data.Rewritten d d' ∧ Node.load d = Node.load d' ∧
    EqvGen Heap.Rewritten heap heap' ∧ heap.load 0 = heap'.load 0 := by
  intro d d' heap heap'
  have unknown : ∀ key ∈ recognised, Data.str "position" ≠ .str key := by
    simp [recognised, payloadTypes]
  have placed : EqvGen Data.Rewritten _ d :=
    .rel _ _ (.inside [(.str "type", .str "root")] [] [] []
      (.here (.extended [(.str "type", .str "delete")] [(.str "value", .str "x")] unknown (.int 1))))
  have named : EqvGen Data.Rewritten _ _ :=
    .rel _ _ (.inside [(.str "type", .str "root")] [] [] []
      (.here (.respelled [] [(.str "value", .str "x")] .strikethrough)))
  have ordered : EqvGen Data.Rewritten _ d' :=
    .rel _ _ (.here (.reordered (by decide) (.swap _ (Data.str "type", Data.str "root") [])))
  have values : EqvGen Data.Rewritten d d' := (placed.symm.trans _ _ _ named.symm).trans _ _ _ ordered
  have heaps : EqvGen Heap.Rewritten heap heap' :=
    .symm _ _ (.rel _ _ (.entries [] [] (.list [.object 0]) (.respelled [] [] .rawHtml)))
  obtain ⟨load, loadHeap⟩ := load_eq_of_rewritten
  exact ⟨values, load d d' values, heaps, loadHeap heap heap' 0 heaps⟩

end Unmark
