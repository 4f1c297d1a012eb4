import Mathlib.Order.WellFounded
import Unmark.Proofs.NodeContract

/-
Module: Unmark.Proofs.HeapReading
Layer: Proofs
Purpose: One step of reading a heap. A child is an object of the heap or a value of its own; both are
  seen as objects here (`Heap.object?`), so that one equation, `loadChild_eq`, says everything that
  reading a child does. The calls that it makes for the children of an object form a well-founded
  relation, whatever objects refer to each other: a call on a heap object makes its address active, and
  a call on a value goes into a part of it. Facts about loading are shown by induction on this relation
  (`load_induction`).
Main exports: Heap.object?, Object.items, Object.MeetsContract, Heap.loadChild, Heap.Nested,
  Heap.wellFounded_nested, Heap.load_induction, Heap.loadChild_eq, Heap.loadChild_eq_ok_iff,
  Heap.loadChild_eq_error
-/

namespace Unmark

open Load

/-- What stands under the `children` key of a value's entries. -/
def Load.childrenOf (es : Entries) : Children :=
  match Data.lookup "children" es with
  | none | some .null => .none
  | some (.list ds) => .list (ds.map Child.value)
  | some d => .other d.typeName

namespace Object

/-- The children of an object, when they form a list. -/
def items (o : Object) : List Child :=
  match o.children with
  | .list cs => cs
  | _ => []

/-- An object that can be read as a node by itself: its entries meet the contract, and its children
    are missing, null or a list. -/
structure MeetsContract (o : Object) : Prop where
  entries : Contract o.entries
  children : ∀ found, o.children ≠ .other found

/-- The checks of an object on entering it, in front of its children: its type, and that its children
    can be gone through. -/
def opened (o : Object) : Except Defect Kind :=
  match kindOf o.entries with
  | .error d => .error d
  | .ok kind =>
    match o.children with
    | .other found => .error (.childrenNotAList found)
    | _ => .ok kind

theorem opened_eq_ok_iff {o : Object} {k : Kind} :
    o.opened = .ok k ↔
      ((∃ s, Data.lookup "type" o.entries = some (.str s) ∧ s ≠ "") ∧
        ∀ found, o.children ≠ .other found) ∧
      Kind.resolve ((readAt Data.string? o.entries "type").getD "") = k := by
  unfold opened
  cases kind : kindOf o.entries with
  | error d =>
      have untyped : ¬ ∃ s, Data.lookup "type" o.entries = some (.str s) ∧ s ≠ "" := by
        intro type
        have passes := kindOf_eq_ok_iff.2 ⟨type, rfl⟩
        simp [kind] at passes
      simp [untyped]
  | ok k' =>
      obtain ⟨type, rfl⟩ := kindOf_eq_ok_iff.1 kind
      cases listed : o.children <;> simp [type]

/-- An object that cannot be opened does not meet the contract; that it contains itself is not found
    out here. -/
theorem opened_eq_error {o : Object} {d : Defect} (failed : o.opened = .error d) :
    d ≠ .cycle ∧ ¬ o.MeetsContract := by
  constructor
  · unfold opened at failed
    cases kind : kindOf o.entries with
    | error d' =>
        simp only [kind, Except.error.injEq] at failed
        exact failed ▸ kindOf_defect_ne_cycle d' kind
    | ok k =>
        simp only [kind] at failed
        split at failed <;> cases failed
        exact Defect.noConfusion
  · rintro ⟨⟨type, _, _⟩, listed⟩
    have opens := opened_eq_ok_iff.2 ⟨⟨type, listed⟩, rfl⟩
    simp [failed] at opens

end Object

namespace Child

/-- Whether a child is an object that is being read. A value of its own has no address. -/
def isActive (active : List Nat) : Child → Bool
  | object a => active.contains a
  | value _ => false

/-- The active path below a child. -/
def enter (active : List Nat) : Child → List Nat
  | object a => a :: active
  | value _ => active

/-- The word for a child that is no object. -/
def typeName : Child → String
  | object _ => "NoneType"
  | value d => d.typeName

/-- A measure of values, which have no address to become active. -/
noncomputable def extent : Child → Nat
  | object _ => 0
  | value d => sizeOf d

end Child

namespace Heap

/-- The object that a child is, if it is one. -/
def object? (heap : Heap) : Child → Option Object
  | .object a => heap[a]?
  | .value (.map es) => some ⟨es, childrenOf es⟩
  | .value _ => none

/-- Some object of the heap or some value: it is an object and meets the contract. -/
def MeetsContract (heap : Heap) (c : Child) : Prop := ∃ o, heap.object? c = some o ∧ o.MeetsContract

theorem meetsContract_iff (heap : Heap) {c : Child} {o : Object} (here : heap.object? c = some o) :
    heap.MeetsContract c ↔ o.MeetsContract := by
  simp [MeetsContract, here]

/-- Reads a child. -/
def loadChild (heap : Heap) (active path : List Nat) : Child → Except LoadError Node
  | .object a => heap.loadObject active path a
  | .value d => Node.loadAt path d

/-! ### Calls within calls -/

/-- Reading a child reads the children of the object that it is: a call on the left is made within the
    call on the right. -/
inductive Nested (heap : Heap) : List Nat × Child → List Nat × Child → Prop where
  | item {active : List Nat} {c c' : Child} {o : Object} (here : heap.object? c = some o)
      (idle : c.isActive active = false) (mem : c' ∈ o.items) :
      Nested heap (c.enter active, c') (active, c)

/-- The items of a value's object are parts of the value. -/
theorem extent_lt_of_mem_items {es : Entries} {c : Child}
    (mem : c ∈ (Object.mk es (childrenOf es)).items) : c.extent < (Child.value (.map es)).extent := by
  unfold Object.items childrenOf at mem
  split at mem
  case h_1 cs listed =>
    split at listed <;> cases listed
    case h_3 ds found =>
      obtain ⟨d, within, rfl⟩ := List.mem_map.1 mem
      have part := List.sizeOf_lt_of_mem within
      have whole := Data.sizeOf_lookup_lt found
      simp only [Child.extent, Data.map.sizeOf_spec, Data.list.sizeOf_spec] at *
      omega
  case h_2 => cases mem

/-- No chain of calls within calls goes on for ever, also when objects contain themselves. -/
theorem wellFounded_nested (heap : Heap) : WellFounded heap.Nested := by
  have measured : WellFounded (InvImage (Prod.Lex (· < ·) (· < ·))
      fun call : List Nat × Child => (heap.idle call.1, call.2.extent)) :=
    InvImage.wf _ (WellFounded.prod_lex Nat.lt_wfRel.wf Nat.lt_wfRel.wf)
  refine Subrelation.wf ?_ measured
  intro inner outer nested
  obtain ⟨here, idle, mem⟩ := nested
  rename_i active c c' o
  cases c with
  | object a =>
      obtain ⟨inside, rfl⟩ := List.getElem?_eq_some_iff.1 here
      exact Prod.Lex.left _ _ (idle_cons_lt inside idle)
  | value d =>
      cases d
      case map es =>
        cases here
        exact Prod.Lex.right _ (extent_lt_of_mem_items mem)
      all_goals cases here

/-- What holds of a call when it holds of the calls made within it holds of every call. -/
theorem load_induction (heap : Heap) {motive : List Nat → Child → Prop}
    (step : ∀ active c,
      (∀ o, heap.object? c = some o → c.isActive active = false →
        ∀ c' ∈ o.items, motive (c.enter active) c') → motive active c) :
    ∀ active c, motive active c := by
  intro active c
  have whole := heap.wellFounded_nested.induction (C := fun call => motive call.1 call.2) (active, c)
  refine whole fun call ih => step call.1 call.2 fun o here idle c' mem => ?_
  exact ih (call.2.enter call.1, c') (.item here idle mem)

/-! ### One step -/

variable (heap : Heap)

@[simp] theorem loadChildren_nil (active path : List Nat) (i : Nat) :
    heap.loadChildren active path i [] = .ok [] := by
  rw [loadChildren]

theorem loadChildren_cons (active path : List Nat) (i : Nat) (c : Child) (cs : List Child) :
    heap.loadChildren active path i (c :: cs) =
      match heap.loadChild active (path ++ [i]) c with
      | .error e => .error e
      | .ok n =>
        match heap.loadChildren active path (i + 1) cs with
        | .error e => .error e
        | .ok ns => .ok (n :: ns) := by
  rw [loadChildren.eq_def]
  cases c <;> rfl

/-- Values are read as children of a heap object as they are read within a value. -/
theorem loadChildren_values (active path : List Nat) (i : Nat) (ds : List Data) :
    heap.loadChildren active path i (ds.map Child.value) = Node.loadFrom path i ds := by
  induction ds generalizing i with
  | nil => rw [List.map_nil, loadChildren_nil, Node.loadFrom]
  | cons d ds ih =>
      rw [List.map_cons, loadChildren_cons, ih, Node.loadFrom]
      rfl

/-- Reading a child: it has to be an object, and one that is not being read already; then it is opened,
    its children are read, and the rest of it is checked. -/
theorem loadChild_eq (active path : List Nat) (c : Child) :
    heap.loadChild active path c =
      match heap.object? c with
      | none => .error ⟨.notAnObject c.typeName, path⟩
      | some o =>
        if c.isActive active then .error ⟨.cycle, path⟩
        else
          match o.opened with
          | .error d => .error ⟨d, path⟩
          | .ok kind =>
            match heap.loadChildren (c.enter active) path 0 o.items with
            | .error e => .error e
            | .ok ns => located path (finish kind o.entries ns) := by
  cases c with
  | object a =>
      rw [loadChild, loadObject]
      by_cases inside : a < heap.length
      · have here : heap.object? (.object a) = some heap[a] := List.getElem?_eq_getElem inside
        simp only [inside, here, Child.isActive, Child.enter, dite_true, Object.opened]
        by_cases met : active.contains a
        · simp only [met, dite_true, if_true]
        · simp only [met, dite_false, Bool.false_eq_true, if_false]
          cases kindOf heap[a].entries with
          | error d => rfl
          | ok kind =>
              simp only [Object.items]
              cases listed : heap[a].children with
              | none => simp
              | other found => rfl
              | list cs => cases below : heap.loadChildren (a :: active) path 0 cs <;> simp [below]
      · have nowhere : heap.object? (.object a) = none := List.getElem?_eq_none (by omega)
        simp [inside, nowhere, Child.typeName]
  | value d =>
      cases d
      case map es =>
        rw [loadChild, Node.loadAt]
        have here : heap.object? (.value (.map es)) = some ⟨es, childrenOf es⟩ := rfl
        simp only [here, Child.isActive, Child.enter, Bool.false_eq_true, if_false, Object.opened]
        cases kindOf es with
        | error d => rfl
        | ok kind =>
            simp only [Object.items, childrenOf]
            cases found : Data.lookup "children" es with
            | none => simp
            | some d =>
                cases d
                case null => simp
                case list ds =>
                  have within := heap.loadChildren_values active path 0 ds
                  cases below : Node.loadFrom path 0 ds <;> simp [within, below]
                all_goals rfl
      all_goals simp [loadChild, Node.loadAt, object?, Child.typeName]

theorem loadChildren_cons_eq_ok_iff {active path : List Nat} {i : Nat} {c : Child}
    {cs : List Child} {ms : List Node} :
    heap.loadChildren active path i (c :: cs) = .ok ms ↔
      ∃ n ns, heap.loadChild active (path ++ [i]) c = .ok n ∧
        heap.loadChildren active path (i + 1) cs = .ok ns ∧ n :: ns = ms := by
  rw [loadChildren_cons]
  cases heap.loadChild active (path ++ [i]) c with
  | error e => simp
  | ok n => cases heap.loadChildren active path (i + 1) cs <;> simp

/-- A list of children is read when each of them is, at its own position. -/
theorem loadChildren_eq_ok_iff {active path : List Nat} {i : Nat} {cs : List Child}
    {ns : List Node} :
    heap.loadChildren active path i cs = .ok ns ↔
      cs.length = ns.length ∧
        ∀ j (h : j < cs.length) (h' : j < ns.length),
          heap.loadChild active (path ++ [i + j]) cs[j] = .ok ns[j] := by
  induction cs generalizing i ns with
  | nil => cases ns <;> simp
  | cons c cs ih =>
      rw [loadChildren_cons_eq_ok_iff]
      constructor
      · rintro ⟨n, ns, first, rest, rfl⟩
        obtain ⟨size, each⟩ := ih.1 rest
        refine ⟨by simp [size], fun j h h' => ?_⟩
        cases j with
        | zero => exact first
        | succ j =>
            have := each j (by simpa using h) (by simpa using h')
            rwa [Nat.add_right_comm] at this
      · rintro ⟨size, each⟩
        cases ns with
        | nil => simp at size
        | cons n ns =>
            refine ⟨n, ns, each 0 (by simp) (by simp), ih.2 ⟨by simpa using size, ?_⟩, rfl⟩
            intro j h h'
            have := each (j + 1) (by simpa using h) (by simpa using h')
            rwa [← Nat.add_assoc, Nat.add_right_comm] at this

/-- An error among children is the error of one of them. -/
theorem loadChildren_eq_error {active path : List Nat} {i : Nat} {cs : List Child} {e : LoadError}
    (failed : heap.loadChildren active path i cs = .error e) :
    ∃ c ∈ cs, ∃ path', heap.loadChild active path' c = .error e := by
  induction cs generalizing i with
  | nil => simp at failed
  | cons c cs ih =>
      rw [loadChildren_cons] at failed
      cases first : heap.loadChild active (path ++ [i]) c with
      | error e' =>
          simp only [first, Except.error.injEq] at failed
          subst failed
          exact ⟨c, List.mem_cons_self, _, first⟩
      | ok n =>
          cases rest : heap.loadChildren active path (i + 1) cs with
          | error e' =>
              simp only [first, rest, Except.error.injEq] at failed
              subst failed
              obtain ⟨c', mem, path', below⟩ := ih rest
              exact ⟨c', List.mem_cons_of_mem c mem, path', below⟩
          | ok ns => simp [first, rest] at failed

theorem located_eq_ok_iff {α : Type} {path : List Nat} {x : Except Defect α} {a : α} :
    located path x = .ok a ↔ x = .ok a := by
  cases x <;> simp [located]

/-- A child is read when it is an object that is not being read already and meets the contract, and
    its children are read. -/
theorem loadChild_eq_ok_iff {active path : List Nat} {c : Child} {n : Node} :
    heap.loadChild active path c = .ok n ↔
      ∃ o ns, heap.object? c = some o ∧ c.isActive active = false ∧ o.MeetsContract ∧
        heap.loadChildren (c.enter active) path 0 o.items = .ok ns ∧ nodeOf o.entries ns = n := by
  rw [loadChild_eq]
  constructor
  · intro read
    cases here : heap.object? c with
    | none => simp [here] at read
    | some o =>
        cases met : c.isActive active with
        | true => simp [here, met] at read
        | false =>
            cases kind : o.opened with
            | error d => simp [here, met, kind] at read
            | ok k =>
                cases below : heap.loadChildren (c.enter active) path 0 o.items with
                | error e => simp [here, met, kind, below] at read
                | ok ns =>
                    simp only [here, met, kind, below, Bool.false_eq_true, if_false,
                      located_eq_ok_iff] at read
                    obtain ⟨⟨type, listed⟩, named⟩ := Object.opened_eq_ok_iff.1 kind
                    obtain ⟨⟨payload, metadata⟩, same⟩ := finish_eq_ok_iff.1 read
                    refine ⟨o, ns, rfl, rfl, ⟨⟨type, payload, metadata⟩, listed⟩, below, ?_⟩
                    rw [← same, ← named, nodeOf]
  · rintro ⟨o, ns, here, met, ⟨⟨type, payload, metadata⟩, listed⟩, below, rfl⟩
    have kind := Object.opened_eq_ok_iff.2 ⟨⟨type, listed⟩, rfl⟩
    have done : finish _ o.entries ns = .ok (nodeOf o.entries ns) :=
      finish_eq_ok_iff.2 ⟨⟨payload, metadata⟩, rfl⟩
    simp [here, met, kind, below, done, located]

/-- A child is not read because it is no object that meets the contract, because it is being read
    already, or because of one of its children. Only the second is a cycle. -/
theorem loadChild_eq_error {active path : List Nat} {c : Child} {e : LoadError}
    (failed : heap.loadChild active path c = .error e) :
    (e.defect ≠ .cycle ∧ ¬ heap.MeetsContract c) ∨
    (e.defect = .cycle ∧ c.isActive active = true) ∨
    ∃ o, heap.object? c = some o ∧ c.isActive active = false ∧
      ∃ c' ∈ o.items, ∃ path', heap.loadChild (c.enter active) path' c' = .error e := by
  rw [loadChild_eq] at failed
  cases here : heap.object? c with
  | none =>
      simp only [here, Except.error.injEq] at failed
      exact .inl ⟨failed ▸ Defect.noConfusion, fun ⟨o, is_object, _⟩ => by simp [here] at is_object⟩
  | some o =>
      have meets := heap.meetsContract_iff here
      cases met : c.isActive active with
      | true =>
          simp only [here, met, if_true, Except.error.injEq] at failed
          exact .inr (.inl ⟨failed ▸ rfl, rfl⟩)
      | false =>
          simp only [here, met, Bool.false_eq_true, if_false] at failed
          cases kind : o.opened with
          | error d =>
              simp only [kind, Except.error.injEq] at failed
              obtain ⟨other, broken⟩ := Object.opened_eq_error kind
              exact .inl ⟨failed ▸ other, fun fits => broken (meets.1 fits)⟩
          | ok k =>
              cases below : heap.loadChildren (c.enter active) path 0 o.items with
              | error e' =>
                  simp only [kind, below, Except.error.injEq] at failed
                  subst failed
                  exact .inr (.inr ⟨o, rfl, rfl, heap.loadChildren_eq_error below⟩)
              | ok ns =>
                  cases done : finish k o.entries ns with
                  | error d =>
                      simp only [kind, below, done, located, Except.error.injEq] at failed
                      obtain ⟨other, broken⟩ := finish_eq_error done
                      exact .inl ⟨failed ▸ other, fun fits => broken (meets.1 fits).entries⟩
                  | ok n => simp [kind, below, done, located] at failed

end Heap

end Unmark
