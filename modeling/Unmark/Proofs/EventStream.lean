import Unmark.Proofs.EveryNode

/-
Module: Unmark.Proofs.EventStream
Layer: Proofs
Purpose: The events of a traversal as a stream. The list of events is what a traversal reports to an action
  that notes every report down. The stream is well nested: read from left to right with a stack of open
  entries, every exit closes the innermost one, and every entry names the innermost open node as its parent
  (`Nests`). It has two events for each node below the root. And it can be read back: the kinds, positions
  and phases of the events are those of one forest only, since the events of a list of siblings end where
  the next event is no entry.
Main exports: Node.reported, Nests, nests_eventsFrom, Event.mark, Node.skeleton, skeletons_of_marks,
  events_report_forest
-/

namespace Unmark

/-- What an event says without its nodes: the kind of the node, its position, and the phase. -/
def Event.mark (e : Event) : Kind × Nat × Bool := (e.node.kind, e.index, e.entering)

/-- The node whose children come next: the one that was entered last of those that are open, and the root
    when none is. -/
def innermost (root : Node) : List Event → Node
  | [] => root
  | entry :: _ => entry.node

/-- Events that are well nested below a root, when the entries `before` are open in front of them, the
    innermost first, and the entries `after` behind them. -/
inductive Nests (root : Node) : (before es after : List Event) → Prop where
  | done {opened : List Event} : Nests root opened [] opened
  | enter {n : Node} {i : Nat} {opened es after : List Event}
      (rest : Nests root (⟨n, innermost root opened, i, true⟩ :: opened) es after) :
      Nests root opened (⟨n, innermost root opened, i, true⟩ :: es) after
  | leave {n parent : Node} {i : Nat} {opened es after : List Event} (rest : Nests root opened es after) :
      Nests root (⟨n, parent, i, true⟩ :: opened) (⟨n, parent, i, false⟩ :: es) after

namespace Node

/-- The reports of a traversal, as an action collects them that notes each one down. -/
def reported (root : Node) : List Event :=
  ((root.walk (m := StateM (List Event)) fun e => modify (· ++ [e])).run []).2

theorem run_forM_noting (es seen : List Event) :
    ((forM es fun e => modify (· ++ [e]) : StateM (List Event) PUnit).run seen).2 = seen ++ es := by
  induction es generalizing seen with
  | nil =>
      rw [List.append_nil]
      rfl
  | cons e es ih =>
      rw [List.forM_cons]
      exact (ih (seen ++ [e])).trans (by simp)

/-- A traversal reports the listed events. -/
theorem reported_eq_events (root : Node) : root.reported = root.events := by
  rw [reported, walk_eq_forM_events, run_forM_noting, List.nil_append]

theorem events_eq (n : Node) : n.events = n.eventsFrom 0 n.children := by
  obtain ⟨k, p, md, cs⟩ := n
  rw [events]
  rfl

/-! ### Nesting -/

mutual

/-- The events below a node that has just been entered are well nested, whatever comes behind them. -/
theorem nests_events {root : Node} : ∀ (n : Node) {entry : Event} {opened es after : List Event},
    entry.node = n → Nests root (entry :: opened) es after →
      Nests root (entry :: opened) (n.events ++ es) after
  | mk k p md cs, entry, opened, es, after, here, rest => by
      rw [events]
      exact nests_eventsFrom 0 cs here rest

/-- The same for the children of the innermost open node. -/
theorem nests_eventsFrom {root parent : Node} :
    ∀ (i : Nat) (cs : List Node) {opened es after : List Event},
      innermost root opened = parent → Nests root opened es after →
        Nests root opened (eventsFrom parent i cs ++ es) after
  | _, [], _, _, _, _, rest => by
      rw [eventsFrom]
      exact rest
  | i, c :: cs, opened, es, after, here, rest => by
      subst here
      have later := nests_eventsFrom (i + 1) cs rfl rest
      rw [eventsFrom, List.cons_append, List.cons_append, List.append_assoc]
      exact .enter (nests_events c rfl (.leave later))

end

/-! ### Length -/

mutual

/-- Every node below the root has an entry and an exit. -/
theorem length_events : ∀ n : Node, n.events.length = 2 * n.size
  | mk k p md cs => by
      rw [events, size]
      exact length_eventsFrom _ 0 cs

/-- The same for the children of one parent. -/
theorem length_eventsFrom (parent : Node) :
    ∀ (i : Nat) (cs : List Node), (eventsFrom parent i cs).length = 2 * sizeAll cs
  | _, [] => by
      rw [eventsFrom, sizeAll]
      rfl
  | i, c :: cs => by
      have below := length_events c
      have later := length_eventsFrom parent (i + 1) cs
      simp only [eventsFrom, sizeAll, List.cons_append, List.length_cons, List.length_append, below, later]
      omega

end

/-! ### Reading a stream back -/

mutual

/-- A tree with nothing left of its nodes but their kinds. -/
def skeleton : Node → Node
  | mk k _ _ cs => mk k {} [] (skeletons cs)

/-- The same for a list of trees. -/
def skeletons : List Node → List Node
  | [] => []
  | n :: ns => skeleton n :: skeletons ns

end

theorem skeleton_eq (n : Node) : n.skeleton = mk n.kind {} [] (skeletons n.children) := by
  obtain ⟨k, p, md, cs⟩ := n
  rw [skeleton]
  rfl

mutual

/-- The marks of the events below a node depend on the skeletons of its children alone. -/
theorem marks_events : ∀ n : Node, n.events.map Event.mark = n.skeleton.events.map Event.mark
  | mk k p md cs => by
      rw [events, skeleton, events]
      exact marks_eventsFrom _ _ 0 cs

/-- The same for the children of one parent. -/
theorem marks_eventsFrom (parent parent' : Node) : ∀ (i : Nat) (cs : List Node),
    (eventsFrom parent i cs).map Event.mark = (eventsFrom parent' i (skeletons cs)).map Event.mark
  | _, [] => by simp [eventsFrom, skeletons]
  | i, c :: cs => by
      have below := marks_events c
      have later := marks_eventsFrom parent parent' (i + 1) cs
      have same : c.kind = c.skeleton.kind := by rw [skeleton_eq, kind_mk]
      simp [eventsFrom, skeletons, Event.mark, below, later, same]

end

/-- Marks that do not begin with an entry. -/
def NoEntry (marks : List (Kind × Nat × Bool)) : Prop := ∀ mark ∈ marks.head?, mark.2.2 = false

mutual

/-- The marks of the events below a node, and the marks behind them, are told apart. -/
theorem skeletons_of_marks : ∀ (n n' : Node) {rest rest' : List (Kind × Nat × Bool)},
    NoEntry rest → NoEntry rest' →
    n.events.map Event.mark ++ rest = n'.events.map Event.mark ++ rest' →
      skeletons n.children = skeletons n'.children ∧ rest = rest'
  | mk k p md cs, n', rest, rest', ends, ends', same => by
      rw [events, events_eq n'] at same
      exact skeletons_of_marksFrom 0 cs n'.children ends ends' same

/-- The same for the children of one parent. Where the children of the one end, those of the other do, as
    what comes behind is no entry. -/
theorem skeletons_of_marksFrom {parent parent' : Node} :
    ∀ (i : Nat) (cs cs' : List Node) {rest rest' : List (Kind × Nat × Bool)},
      NoEntry rest → NoEntry rest' →
      (eventsFrom parent i cs).map Event.mark ++ rest =
        (eventsFrom parent' i cs').map Event.mark ++ rest' →
      skeletons cs = skeletons cs' ∧ rest = rest'
  | _, [], [], rest, rest', _, _, same => by
      simpa [eventsFrom] using same
  | i, [], c' :: cs', rest, rest', ends, _, same => by
      rw [eventsFrom, List.map_nil, List.nil_append] at same
      subst same
      exact absurd (ends (c'.kind, i, true) rfl) (by simp)
  | i, c :: cs, [], rest, rest', _, ends', same => by
      rw [eventsFrom.eq_def parent' i [], List.map_nil, List.nil_append] at same
      subst same
      exact absurd (ends' (c.kind, i, true) rfl) (by simp)
  | i, c :: cs, c' :: cs', rest, rest', ends, ends', same => by
      simp only [eventsFrom, List.cons_append, List.map_cons, List.map_append, List.append_assoc,
        List.cons.injEq] at same
      obtain ⟨entry, behind⟩ := same
      have kind : c.kind = c'.kind := congrArg Prod.fst entry
      obtain ⟨below, exits⟩ :=
        skeletons_of_marks c c' (by simp [NoEntry, Event.mark]) (by simp [NoEntry, Event.mark]) behind
      obtain ⟨later, done⟩ :=
        skeletons_of_marksFrom (i + 1) cs cs' ends ends' (List.cons.inj exits).2
      refine ⟨?_, done⟩
      rw [skeletons, skeletons, skeleton_eq c, skeleton_eq c', kind, below, later]

end

/-- The events below a root are the reports of its traversal. Each has the parent whose child at the given
    position the node is; they are well nested, two for each position below the root; and their kinds,
    positions and phases say what the forest below the root looks like, and nothing else. -/
theorem events_report_forest (root : Node) :
    root.reported = root.events ∧
    (∀ e ∈ root.events, e.parent.children[e.index]? = some e.node) ∧
    Nests root [] root.events [] ∧
    root.events.length = 2 * root.size ∧
    ∀ root' : Node, root.events.map Event.mark = root'.events.map Event.mark ↔
      skeletons root.children = skeletons root'.children := by
  refine ⟨reported_eq_events root, fun e mem => (place_of_mem_events root mem).2, ?_,
    length_events root, fun root' => ⟨fun same => ?_, fun same => ?_⟩⟩
  · have nested : Nests root [] (root.eventsFrom 0 root.children ++ []) [] :=
      nests_eventsFrom 0 root.children rfl .done
    rwa [List.append_nil, ← events_eq] at nested
  · have ends : NoEntry [] := by simp [NoEntry]
    have whole : root.events.map Event.mark ++ [] = root'.events.map Event.mark ++ [] := by rw [same]
    exact (skeletons_of_marks root root' ends ends whole).1
  · rw [events_eq root, events_eq root', marks_eventsFrom root root 0, same,
      ← marks_eventsFrom root' root 0]

end Node

end Unmark
