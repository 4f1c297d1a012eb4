import Unmark.Proofs.CheckOrder
import Unmark.Proofs.HeapUnfolding

/-
Module: Unmark.Proofs.LoadDefects
Layer: Proofs
Purpose: Where a load error points. The path of an error leads from the object that was read to the one that
  has the defect (`Heap.Has`), one child per step; at the end of the path of a cycle stands an object that is
  met again there.
Main exports: Heap.Has, Heap.Stops, Heap.stops_of_loadChild, Heap.MetAgain, Heap.metAgain_cons,
  Heap.loadChild_error_at, Heap.load_value_error_at
-/

namespace Unmark

open Load

/-! ### Defects of one child -/

/-- A child has a defect: it is no object, or an object with the defect. -/
inductive Heap.Has (heap : Heap) (c : Child) : Defect → Prop where
  | nowhere (no_object : heap.object? c = none) : Has heap c (.notAnObject c.typeName)
  | object {o : Object} {defect : Defect} (here : heap.object? c = some o) (wrong : o.Has defect) :
      Has heap c defect

namespace Heap

variable {heap : Heap}

/-! ### Where an error is -/

/-- An error among children is that of one of them at its own position, and those in front are read. -/
theorem loadChildren_error_at {active path : List Nat} {i : Nat} {cs : List Child} {e : LoadError}
    (failed : heap.loadChildren active path i cs = .error e) :
    ∃ j, ∃ h : j < cs.length, heap.loadChild active (path ++ [i + j]) cs[j] = .error e ∧
      ∀ k (h' : k < j), ∃ n, heap.loadChild active (path ++ [i + k]) cs[k] = .ok n := by
  induction cs generalizing i with
  | nil => simp at failed
  | cons c cs ih =>
      rw [loadChildren_cons] at failed
      cases first : heap.loadChild active (path ++ [i]) c with
      | error e' =>
          simp only [first, Except.error.injEq] at failed
          subst failed
          exact ⟨0, Nat.zero_lt_succ _, first, fun k below => absurd below (Nat.not_lt_zero k)⟩
      | ok n =>
          cases rest : heap.loadChildren active path (i + 1) cs with
          | ok ns => simp [first, rest] at failed
          | error e' =>
              simp only [first, rest, Except.error.injEq] at failed
              subst failed
              obtain ⟨j, h, there, before⟩ := ih rest
              rw [Nat.add_right_comm] at there
              refine ⟨j + 1, Nat.succ_lt_succ h, there, ?_⟩
              intro k below
              cases k with
              | zero => exact ⟨n, first⟩
              | succ k =>
                  obtain ⟨m, read⟩ := before k (Nat.lt_of_succ_lt_succ below)
                  rw [Nat.add_right_comm] at read
                  exact ⟨m, read⟩

/-- Why a child is not read, with what was checked before: it is no object, it is being read already, it
    cannot be opened, one of its children is not read while those in front of it are, or the checks behind
    its children fail. -/
inductive Stops (heap : Heap) (active path : List Nat) (c : Child) : LoadError → Prop where
  | nowhere (no_object : heap.object? c = none) : Stops heap active path c ⟨.notAnObject c.typeName, path⟩
  | again {o : Object} (here : heap.object? c = some o) (met : c.isActive active = true) :
      Stops heap active path c ⟨.cycle, path⟩
  | opening {o : Object} {d : Defect} (here : heap.object? c = some o) (idle : c.isActive active = false)
      (failed : o.opened = .error d) : Stops heap active path c ⟨d, path⟩
  | child {o : Object} {kind : Kind} {e : LoadError} {j : Nat} (here : heap.object? c = some o)
      (idle : c.isActive active = false) (opens : o.opened = .ok kind) (h : j < o.items.length)
      (failed : heap.loadChild (c.enter active) (path ++ [j]) o.items[j] = .error e)
      (before : ∀ k (h' : k < j), ∃ n, heap.loadChild (c.enter active) (path ++ [k]) o.items[k] = .ok n) :
      Stops heap active path c e
  | closing {o : Object} {kind : Kind} {ns : List Node} {d : Defect} (here : heap.object? c = some o)
      (idle : c.isActive active = false) (opens : o.opened = .ok kind)
      (read : heap.loadChildren (c.enter active) path 0 o.items = .ok ns)
      (failed : finish kind o.entries ns = .error d) : Stops heap active path c ⟨d, path⟩

theorem stops_of_loadChild {active path : List Nat} {c : Child} {e : LoadError}
    (failed : heap.loadChild active path c = .error e) : heap.Stops active path c e := by
  rw [loadChild_eq] at failed
  cases here : heap.object? c with
  | none =>
      simp only [here, Except.error.injEq] at failed
      exact failed ▸ .nowhere here
  | some o =>
      cases met : c.isActive active with
      | true =>
          simp only [here, met, if_true, Except.error.injEq] at failed
          exact failed ▸ .again here met
      | false =>
          simp only [here, met, Bool.false_eq_true, if_false] at failed
          cases kind : o.opened with
          | error d =>
              simp only [kind, Except.error.injEq] at failed
              exact failed ▸ .opening here met kind
          | ok k =>
              cases below : heap.loadChildren (c.enter active) path 0 o.items with
              | error e' =>
                  simp only [kind, below, Except.error.injEq] at failed
                  subst failed
                  obtain ⟨j, h, there, before⟩ := loadChildren_error_at below
                  simp only [Nat.zero_add] at there before
                  exact .child here met kind h there before
              | ok ns =>
                  cases done : finish k o.entries ns with
                  | ok n => simp [kind, below, done, located] at failed
                  | error d =>
                      simp only [kind, below, done, located, Except.error.injEq] at failed
                      exact failed ▸ .closing here met kind below done

/-- At the end of a path stands an object that is active already, or that stands at a shorter part of the
    path. -/
def MetAgain (heap : Heap) (active : List Nat) (c : Child) (steps : List Nat) : Prop :=
  ∃ a, heap.at? c steps = some (.object a) ∧
    (a ∈ active ∨ ∃ front, front <+: steps ∧ front ≠ steps ∧ heap.at? c front = some (.object a))

theorem at?_cons {c : Child} {o : Object} {j : Nat} (here : heap.object? c = some o)
    (h : j < o.items.length) (steps : List Nat) : heap.at? c (j :: steps) = heap.at? o.items[j] steps := by
  rw [at?, here, Option.bind_some, List.getElem?_eq_getElem h, Option.bind_some]

theorem metAgain_nil {active : List Nat} {c : Child} :
    heap.MetAgain active c [] ↔ c.isActive active = true := by
  constructor
  · rintro ⟨a, there, outer | ⟨front, part, proper, -⟩⟩
    · cases there
      exact List.contains_iff_mem.2 outer
    · exact absurd (List.prefix_nil.1 part) proper
  · intro met
    cases c with
    | value d => cases met
    | object a => exact ⟨a, rfl, .inl (List.contains_iff_mem.1 met)⟩

/-- What is met again below an object is met again from its child, once the object is active. -/
theorem metAgain_cons {active : List Nat} {c : Child} {o : Object} {j : Nat}
    (here : heap.object? c = some o) (h : j < o.items.length) {steps : List Nat} :
    heap.MetAgain active c (j :: steps) ↔ heap.MetAgain (c.enter active) o.items[j] steps := by
  have down := at?_cons here h
  constructor
  · rintro ⟨a, there, before⟩
    refine ⟨a, (down steps).symm.trans there, ?_⟩
    rcases before with outer | ⟨front, part, proper, same⟩
    · cases c with
      | value d => exact .inl outer
      | object b => exact .inl (List.mem_cons_of_mem b outer)
    · cases front with
      | nil =>
          cases same
          exact .inl List.mem_cons_self
      | cons k front =>
          obtain ⟨rfl, shorter⟩ := List.cons_prefix_cons.1 part
          refine .inr ⟨front, shorter, ?_, (down front).symm.trans same⟩
          rintro rfl
          exact proper rfl
  · rintro ⟨a, there, before⟩
    refine ⟨a, (down steps).trans there, ?_⟩
    rcases before with outer | ⟨front, part, proper, same⟩
    · cases c with
      | value d => exact .inl outer
      | object b =>
          rcases List.mem_cons.1 outer with rfl | outer
          · exact .inr ⟨[], List.nil_prefix, (List.cons_ne_nil j steps).symm, rfl⟩
          · exact .inl outer
    · refine .inr ⟨j :: front, List.cons_prefix_cons.2 ⟨rfl, part⟩, ?_, (down front).trans same⟩
      intro equal
      exact proper (List.cons.inj equal).2

/-- The path of an error goes on from where reading started, and leads to a child that has the defect or is
    met again. -/
theorem loadChild_error_at (active : List Nat) (c : Child) :
    ∀ path e, heap.loadChild active path c = .error e → ∃ steps, e.path = path ++ steps ∧
      ((∃ c', heap.at? c steps = some c' ∧ heap.Has c' e.defect) ∨
        (e.defect = .cycle ∧ heap.MetAgain active c steps)) := by
  induction active, c using heap.load_induction with
  | step active c ih =>
      intro path e failed
      have here_it_is : path = path ++ [] := (List.append_nil path).symm
      cases stops_of_loadChild failed with
      | nowhere no_object => exact ⟨[], here_it_is, .inl ⟨c, rfl, .nowhere no_object⟩⟩
      | again here met => exact ⟨[], here_it_is, .inr ⟨rfl, metAgain_nil.2 met⟩⟩
      | opening here idle closed =>
          exact ⟨[], here_it_is, .inl ⟨c, rfl, .object here (Object.opened_first closed).1⟩⟩
      | @child o _ _ j here idle opens h inner before =>
          obtain ⟨steps, place, found⟩ := ih o here idle _ (List.getElem_mem h) _ _ inner
          refine ⟨j :: steps, by rw [place, List.append_assoc, List.singleton_append], ?_⟩
          rw [at?_cons here h, metAgain_cons here h]
          exact found
      | closing here idle opens read unfit =>
          exact ⟨[], here_it_is, .inl ⟨c, rfl, .object here (.entries (findsFirst_finish.found _ unfit).1)⟩⟩

/-! ### Values -/

/-- Below a value stand only values. -/
theorem at?_value {d : Data} {c : Child} {steps : List Nat} (found : heap.at? (.value d) steps = some c) :
    ∃ d', c = .value d' := by
  induction steps generalizing d with
  | nil =>
      cases found
      exact ⟨d, rfl⟩
  | cons i steps ih =>
      rw [at?] at found
      obtain ⟨o, here, found⟩ := Option.bind_eq_some_iff.1 found
      obtain ⟨c', item, found⟩ := Option.bind_eq_some_iff.1 found
      cases d
      case map es =>
        cases here
        have mem := List.mem_of_getElem? item
        unfold Object.items childrenOf at mem
        split at mem
        case h_1 cs listed =>
          split at listed <;> cases listed
          obtain ⟨d', -, rfl⟩ := List.mem_map.1 mem
          exact ih found
        case h_2 => cases mem
      all_goals cases here

/-- The path of an error of reading a value leads to a value within it that has the defect. -/
theorem load_value_error_at {d : Data} {e : LoadError} (failed : Node.load d = .error e) :
    ∃ d', Heap.at? [] (.value d) e.path = some (.value d') ∧ Heap.Has [] (.value d') e.defect := by
  have read : Heap.loadChild [] [] [] (.value d) = .error e := failed
  obtain ⟨steps, place, found⟩ := loadChild_error_at [] (.value d) [] e read
  rw [place, List.nil_append]
  rcases found with ⟨c', there, wrong⟩ | ⟨-, a, there, -⟩
  · obtain ⟨d', rfl⟩ := at?_value there
    exact ⟨d', there, wrong⟩
  · obtain ⟨d', absurd_address⟩ := at?_value there
    cases absurd_address

end Heap

end Unmark
