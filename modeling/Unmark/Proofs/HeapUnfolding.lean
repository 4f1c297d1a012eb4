import Mathlib.Logic.Relation
import Unmark.Proofs.HeapReading

/-
Module: Unmark.Proofs.HeapUnfolding
Layer: Proofs
Purpose: Reading a heap of objects that refer to each other. The children of an object are its
  successors in a graph; a node is the unfolding of a place in the graph when it repeats what stands
  there at every position below it (`Heap.Unfolds`). Reading succeeds exactly when every object that can
  be reached meets the contract of nodes and none of them contains itself, and then gives the unfolding.
  Active addresses lead to the object being read, so that a cycle is reported only where there is one,
  and an object that is shared is read the same at all of its positions.
Main exports: Heap.Edge, Heap.Reaches, Heap.ContainsItself, Heap.Unfolds, Heap.unfolds_of_loadChild,
  Heap.loadChild_error_cause, Heap.load_ok_iff_contract_and_acyclic
-/

namespace Unmark

open Load Relation

namespace Node

/-- The node at a position, found by going down one child at a time. -/
def at? : Node → List Nat → Option Node
  | n, [] => some n
  | n, i :: path => (n.children[i]?).bind fun c => at? c path

/-- A child has fewer descendants than its parent. -/
theorem size_lt_of_mem {n : Node} {ns : List Node} (mem : n ∈ ns) : n.size < sizeAll ns := by
  induction ns with
  | nil => cases mem
  | cons m ns ih =>
      rw [sizeAll]
      rcases List.mem_cons.1 mem with rfl | later
      · omega
      · have := ih later
        omega

end Node

namespace Heap

/-! ### The graph -/

/-- One child is an object that has the other among its children. -/
def Edge (heap : Heap) (c c' : Child) : Prop := ∃ o, heap.object? c = some o ∧ c' ∈ o.items

/-- One child is the other or has it somewhere below it. -/
abbrev Reaches (heap : Heap) : Child → Child → Prop := ReflTransGen heap.Edge

/-- The object at an address stands somewhere below itself. -/
def ContainsItself (heap : Heap) (a : Nat) : Prop := TransGen heap.Edge (.object a) (.object a)

/-- The child at a position, found by going down one child at a time. -/
def at? (heap : Heap) : Child → List Nat → Option Child
  | c, [] => some c
  | c, i :: path =>
    (heap.object? c).bind fun o => (o.items[i]?).bind fun c' => at? heap c' path

/-- A node repeats an object and, child by child, what stands below it. -/
inductive Unfolds (heap : Heap) : Child → Node → Prop where
  | object {c : Child} {o : Object} {ns : List Node} (here : heap.object? c = some o)
      (size : o.items.length = ns.length)
      (below : ∀ i (h : i < o.items.length) (h' : i < ns.length), Unfolds heap o.items[i] ns[i]) :
      Unfolds heap c (nodeOf o.entries ns)

variable {heap : Heap}

/-- What stands at a place of the graph has at most one unfolding. -/
theorem Unfolds.unique {c : Child} {n m : Node} (left : heap.Unfolds c n) (right : heap.Unfolds c m) :
    n = m := by
  induction left generalizing m with
  | object here size _ ih =>
      obtain ⟨here', size', below'⟩ := right
      obtain rfl := Option.some.inj (here.symm.trans here')
      congr 1
      refine List.ext_getElem (size.symm.trans size') fun i h h' => ?_
      exact ih i (by omega) h (below' i (by omega) h')

/-- An unfolding holds the unfoldings of what stands below its place. -/
theorem Unfolds.child {c c' : Child} {n : Node} (whole : heap.Unfolds c n) (edge : heap.Edge c c') :
    ∃ n', heap.Unfolds c' n' ∧ n'.size < n.size := by
  obtain ⟨here, size, below⟩ := whole
  obtain ⟨o, here', mem⟩ := edge
  obtain rfl := Option.some.inj (here.symm.trans here')
  obtain ⟨i, h, rfl⟩ := List.getElem_of_mem mem
  exact ⟨_, below i h (size ▸ h), Node.size_lt_of_mem (List.getElem_mem _)⟩

theorem Unfolds.descendant {c c' : Child} {n : Node} (whole : heap.Unfolds c n)
    (path : TransGen heap.Edge c c') : ∃ n', heap.Unfolds c' n' ∧ n'.size < n.size := by
  induction path with
  | single edge => exact whole.child edge
  | tail _ edge ih =>
      obtain ⟨n', part, smaller⟩ := ih
      obtain ⟨n'', part', smaller'⟩ := part.child edge
      exact ⟨n'', part', smaller'.trans smaller⟩

/-- What has an unfolding does not stand below itself: the same node would be smaller than itself. -/
theorem Unfolds.not_below_itself {c : Child} {n : Node} (whole : heap.Unfolds c n) :
    ¬ TransGen heap.Edge c c := by
  intro cycle
  obtain ⟨n', part, smaller⟩ := whole.descendant cycle
  obtain rfl := whole.unique part
  exact Nat.lt_irrefl _ smaller

theorem Unfolds.reached {c c' : Child} {n : Node} (whole : heap.Unfolds c n)
    (reached : heap.Reaches c c') : ∃ n', heap.Unfolds c' n' := by
  rcases reflTransGen_iff_eq_or_transGen.1 reached with rfl | path
  · exact ⟨n, whole⟩
  · obtain ⟨n', part, _⟩ := whole.descendant path
    exact ⟨n', part⟩

/-- The positions of an unfolding are those of the graph, and each holds the unfolding of what stands
    there. -/
theorem Unfolds.at? {c : Child} {n : Node} (whole : heap.Unfolds c n) (path : List Nat) :
    Option.Rel heap.Unfolds (heap.at? c path) (n.at? path) := by
  induction path generalizing c n with
  | nil => exact .some whole
  | cons i path ih =>
      obtain ⟨here, size, below⟩ := whole
      rename_i o ns
      simp only [Heap.at?, here, Option.bind_some, Node.at?, nodeOf, Node.children_mk]
      by_cases h : i < o.items.length
      · have h' : i < ns.length := size ▸ h
        rw [List.getElem?_eq_getElem h, List.getElem?_eq_getElem h']
        exact ih (below i h h')
      · rw [List.getElem?_eq_none (by omega), List.getElem?_eq_none (by omega)]
        exact .none

/-! ### Reading gives the unfolding -/

/-- What is read is the unfolding of the place it is read from. -/
theorem unfolds_of_loadChild (active : List Nat) (c : Child) :
    ∀ path n, heap.loadChild active path c = .ok n → heap.Unfolds c n := by
  induction active, c using heap.load_induction with
  | step active c ih =>
      intro path n read
      obtain ⟨o, ns, here, idle, _, below, rfl⟩ := heap.loadChild_eq_ok_iff.1 read
      obtain ⟨size, each⟩ := heap.loadChildren_eq_ok_iff.1 below
      exact .object here size fun i h h' => ih o here idle _ (List.getElem_mem h) _ _ (each i h h')

/-- When a child is read, everything that it reaches meets the contract. -/
theorem meetsContract_of_loadChild (active : List Nat) (c : Child) :
    ∀ path n, heap.loadChild active path c = .ok n →
      ∀ c', heap.Reaches c c' → heap.MeetsContract c' := by
  induction active, c using heap.load_induction with
  | step active c ih =>
      intro path n read c' reached
      obtain ⟨o, ns, here, idle, meets, below, _⟩ := heap.loadChild_eq_ok_iff.1 read
      obtain ⟨size, each⟩ := heap.loadChildren_eq_ok_iff.1 below
      rcases ReflTransGen.cases_head reached with rfl | ⟨d, ⟨o', here', mem⟩, rest⟩
      · exact ⟨o, here, meets⟩
      · obtain rfl := Option.some.inj (here.symm.trans here')
        obtain ⟨i, h, rfl⟩ := List.getElem_of_mem mem
        exact ih o here idle _ mem _ _ (each i h (size ▸ h)) c' rest

/-! ### Why reading fails -/

/-- The active addresses are those of objects that have the child being read somewhere below them. -/
def Above (heap : Heap) (active : List Nat) (c : Child) : Prop :=
  ∀ a ∈ active, TransGen heap.Edge (.object a) c

/-- Going down to a child keeps the active addresses above it. -/
theorem Above.enter {active : List Nat} {c c' : Child} (above : heap.Above active c)
    (edge : heap.Edge c c') : heap.Above (c.enter active) c' := by
  intro a mem
  cases c with
  | value d => exact (above a mem).tail edge
  | object b =>
      rcases List.mem_cons.1 mem with rfl | outer
      · exact .single edge
      · exact (above a outer).tail edge

/-- Reading fails because of an object within reach: a cycle is reported only when one contains itself,
    and anything else only when one does not meet the contract. -/
theorem loadChild_error_cause (active : List Nat) (c : Child) :
    ∀ path e, heap.loadChild active path c = .error e → heap.Above active c →
      (e.defect = .cycle ∧ ∃ a, heap.Reaches c (.object a) ∧ heap.ContainsItself a) ∨
      (e.defect ≠ .cycle ∧ ∃ c', heap.Reaches c c' ∧ ¬ heap.MeetsContract c') := by
  induction active, c using heap.load_induction with
  | step active c ih =>
      intro path e failed above
      rcases heap.loadChild_eq_error failed with
        ⟨other, broken⟩ | ⟨cycle, met⟩ | ⟨o, here, idle, c', mem, path', inner⟩
      · exact .inr ⟨other, c, .refl, broken⟩
      · cases c with
        | value d => cases met
        | object a => exact .inl ⟨cycle, a, .refl, above a (by simpa [Child.isActive] using met)⟩
      · have edge : heap.Edge c c' := ⟨o, here, mem⟩
        rcases ih o here idle c' mem path' e inner (above.enter edge) with
          ⟨cycle, a, reached, itself⟩ | ⟨other, c'', reached, broken⟩
        · exact .inl ⟨cycle, a, .head edge reached, itself⟩
        · exact .inr ⟨other, c'', .head edge reached, broken⟩

/-- Reading a heap comes to an end: no chain of calls within calls is infinite. It gives a node exactly
    when everything within reach of the root meets the contract and no object there contains itself.
    The node is then the unfolding of the root, the same at all positions of a shared object, and
    sharing alone is never taken for a cycle. -/
theorem load_ok_iff_contract_and_acyclic (heap : Heap) (root : Nat) :
    WellFounded heap.Nested ∧
    ((∃ n, heap.load root = .ok n) ↔
      (∀ c, heap.Reaches (.object root) c → heap.MeetsContract c) ∧
        ∀ a, heap.Reaches (.object root) (.object a) → ¬ heap.ContainsItself a) ∧
    (∀ n, heap.load root = .ok n →
      heap.Unfolds (.object root) n ∧
      ∀ p q c, heap.at? (.object root) p = some c → heap.at? (.object root) q = some c →
        ∃ m, n.at? p = some m ∧ n.at? q = some m ∧ heap.Unfolds c m) ∧
    ∀ path, heap.load root = .error ⟨.cycle, path⟩ →
      ∃ a, heap.Reaches (.object root) (.object a) ∧ heap.ContainsItself a := by
  refine ⟨heap.wellFounded_nested, ⟨?_, ?_⟩, ?_, ?_⟩
  · rintro ⟨n, read⟩
    have unfolding := unfolds_of_loadChild [] (.object root) [] n read
    refine ⟨meetsContract_of_loadChild [] (.object root) [] n read, fun a reached => ?_⟩
    obtain ⟨m, part⟩ := unfolding.reached reached
    exact part.not_below_itself
  · rintro ⟨meets, acyclic⟩
    cases read : heap.load root with
    | ok n => exact ⟨n, rfl⟩
    | error e =>
        rcases loadChild_error_cause [] (.object root) [] e read (by simp [Above]) with
          ⟨_, a, reached, itself⟩ | ⟨_, c, reached, broken⟩
        · exact absurd itself (acyclic a reached)
        · exact absurd (meets c reached) broken
  · intro n read
    have unfolding := unfolds_of_loadChild [] (.object root) [] n read
    refine ⟨unfolding, fun p q c atp atq => ?_⟩
    have first := unfolding.at? p
    have second := unfolding.at? q
    rw [atp] at first
    rw [atq] at second
    cases hp : n.at? p with
    | none => simp [hp] at first
    | some m =>
        cases hq : n.at? q with
        | none => simp [hq] at second
        | some m' =>
            rw [hp, Option.rel_some_some] at first
            rw [hq, Option.rel_some_some] at second
            obtain rfl := first.unique second
            exact ⟨m, rfl, rfl, first⟩
  · intro path failed
    rcases loadChild_error_cause [] (.object root) [] _ failed (by simp [Above]) with
      ⟨_, found⟩ | ⟨other, _⟩
    · exact found
    · exact absurd rfl other

end Heap

end Unmark
