import Unmark.Failure
import Unmark.Proofs.EveryNode

/-
Module: Unmark.Proofs.RenderFailures
Layer: Proofs
Purpose: Which defect a rendering reports. A node that prints its value fails on being entered, a link on
  being left, and the traversal stops at the first event that fails. Between the two events of a link stand
  all events of what is below it, so a link is reported only when nothing below it is defective.
Main exports: exists_of_leaving, Lacks, Event.Fails, effect_defect_eq_some_iff,
  render_stops_at_first_failure
-/

namespace Unmark

namespace Node

/-! ### Leaving a node -/

mutual

/-- A node is left right after all the events below it, and these right after it was entered. -/
theorem exists_of_leaving : ∀ (n : Node) {before after : List Event} {e : Event},
    n.events = before ++ e :: after → e.entering = false →
      ∃ front, before = front ++ ⟨e.node, e.parent, e.index, true⟩ :: e.node.events
  | mk k p md cs, before, after, e, listed, leaving => by
      rw [events] at listed
      exact exists_of_leavingFrom (mk k p md cs) 0 cs listed leaving

/-- The same for the children of one parent. -/
theorem exists_of_leavingFrom (parent : Node) :
    ∀ (i : Nat) (cs : List Node) {before after : List Event} {e : Event},
      eventsFrom parent i cs = before ++ e :: after → e.entering = false →
        ∃ front, before = front ++ ⟨e.node, e.parent, e.index, true⟩ :: e.node.events
  | _, [], before, after, e, listed, _ => by
      rw [eventsFrom] at listed
      cases before <;> cases listed
  | i, c :: cs, before, after, e, listed, leaving => by
      rw [eventsFrom] at listed
      rcases List.append_eq_append_iff.1 listed with ⟨later, rfl, rest⟩ | ⟨inner, first, rest⟩
      · cases later with
        | nil =>
            -- The event is the one of leaving the first child.
            cases rest
            exact ⟨[], (List.append_nil _).trans rfl⟩
        | cons e' later =>
            obtain ⟨-, rest⟩ := List.cons.inj rest
            obtain ⟨front, rfl⟩ := exists_of_leavingFrom parent (i + 1) cs rest leaving
            exact ⟨⟨c, parent, i, true⟩ :: c.events ++ e' :: front, by simp⟩
      · cases inner with
        | nil =>
            cases rest
            exact ⟨[], by rw [List.append_nil] at first; exact first.symm⟩
        | cons e' inner =>
            obtain ⟨rfl, -⟩ := List.cons.inj rest
            cases before with
            | nil =>
                -- The first child is entered here, not left.
                cases first
                cases leaving
            | cons e'' before =>
                obtain ⟨rfl, below⟩ := List.cons.inj first
                obtain ⟨front, rfl⟩ := exists_of_leaving c below leaving
                exact ⟨⟨c, parent, i, true⟩ :: front, rfl⟩

end

end Node

namespace PlainText

open Node

/-! ### Events that fail -/

/-- A node lacks the field that its kind prints. -/
inductive Lacks (n : Node) : RenderError → Prop where
  | value {t : Tag} (kind : n.kind = .tag t) (printed : t ∈ [.text, .inlineCode, .code])
      (absent : n.payload.value = none) : Lacks n ⟨t, "value"⟩
  | url (kind : n.kind = .tag .link) (absent : n.payload.url = none) : Lacks n ⟨.link, "url"⟩

/-- A rendering fails on entering a node that lacks its value, and on leaving a link that lacks its URL. -/
def Event.Fails (e : Event) (err : RenderError) : Prop :=
  Lacks e.node err ∧ e.entering = decide (err.tag ≠ .link)

theorem Lacks.kind_eq {n : Node} {err : RenderError} (lacks : Lacks n err) : n.kind = .tag err.tag := by
  cases lacks with
  | value kind _ _ => exact kind
  | url kind _ => exact kind

theorem complete_iff {n : Node} : Complete n ↔ ∀ err, ¬ Lacks n err := by
  constructor
  · intro complete err lacks
    cases lacks with
    | value kind printed absent =>
        simp only [List.mem_cons, List.not_mem_nil, or_false] at printed
        rcases printed with rfl | rfl | rfl <;> simp [Complete, kind, absent] at complete
    | url kind absent => simp [Complete, kind, absent] at complete
  · intro fine
    unfold Complete
    split
    case h_1 kind => exact fun absent => fine _ (.value kind (by decide) absent)
    case h_2 kind => exact fun absent => fine _ (.value kind (by decide) absent)
    case h_3 kind => exact fun absent => fine _ (.value kind (by decide) absent)
    case h_4 kind => exact fun absent => fine _ (.url kind absent)
    case h_5 => trivial

/-- The effect of an event has a defect exactly when the event fails. -/
theorem effect_defect_eq_some_iff (o : Options) {e : Event} {err : RenderError} :
    (effect o e).defect = some err ↔ Event.Fails e err := by
  constructor
  · intro defect
    obtain ⟨⟨k, p, md, cs⟩, parent, i, entering⟩ := e
    cases k with
    | foreign name fresh => cases entering <;> cases defect
    | tag t =>
        cases t
        case text | inlineCode | code =>
          cases entering
          · cases defect
          · cases value : p.value with
            | some s => simp [effect, missing, value] at defect
            | none =>
                simp only [effect, missing, kind_mk, payload_mk, value, if_true, Option.some.injEq] at defect
                subst defect
                exact ⟨.value rfl (by decide) value, rfl⟩
        case link =>
          cases entering
          · cases url : p.url with
            | some s => simp [effect, url] at defect
            | none =>
                simp only [effect, kind_mk, payload_mk, url, Bool.false_eq_true, if_false,
                  Option.some.injEq] at defect
                subst defect
                exact ⟨.url rfl url, rfl⟩
          · cases defect
        all_goals cases entering <;> cases defect
  · rintro ⟨lacks, phase⟩
    obtain ⟨n, parent, i, entering⟩ := e
    cases lacks with
    | value kind printed absent =>
        simp only [List.mem_cons, List.not_mem_nil, or_false] at printed
        rcases printed with rfl | rfl | rfl <;>
          simp_all [effect, missing]
    | url kind absent => simp_all [effect]

theorem effect_defect_eq_none_iff (o : Options) {e : Event} :
    (effect o e).defect = none ↔ ∀ err, ¬ Event.Fails e err := by
  simp only [← effect_defect_eq_some_iff o, Option.eq_none_iff_forall_ne_some, ne_eq]

/-- Events none of which fails are those of a tree without defects below its root. -/
theorem not_lacks_of_events {n : Node} (fine : ∀ e ∈ n.events, ∀ err, ¬ Event.Fails e err) :
    ∀ m : Node, m.Below n → ∀ err, ¬ Lacks m err := by
  have clean : firstDefect n = none := by
    rw [← findSome?_defect_events {} n, List.findSome?_eq_none_iff]
    intro x mem
    obtain ⟨e, among, rfl⟩ := List.mem_map.1 mem
    exact (effect_defect_eq_none_iff {}).2 (fine e among)
  have complete := everyIn_children_iff.1 ((defectIn_eq_none_iff n.children).1 clean)
  exact fun m below => complete_iff.1 (complete m below)

/-! ### Where a rendering stops -/

/-- The root of a tree counts only for its kind and its children. -/
theorem render_text_root (o : Options) (tree : Node) (payload : Payload) (metadata : Entries) :
    (render o (.mk tree.kind payload metadata tree.children)).text = (render o tree).text :=
  render_text_congr o rfl rfl

/-- A rendering fails exactly when some node below the root lacks the field that its kind prints; what the
    root itself holds makes no difference. The error is that of the first event of the traversal that fails:
    it names the kind and the field of the node of this event, and when the node is a link, no node below the
    link lacks anything. -/
theorem render_stops_at_first_failure (o : Options) (tree : Node) :
    ((∃ err, (render o tree).text = .error err) ↔ ∃ n err, Node.Below n tree ∧ Lacks n err) ∧
    (∀ err, (render o tree).text = .error err ↔
      ∃ before e after, tree.events = before ++ e :: after ∧ (∀ b ∈ before, ∀ x, ¬ Event.Fails b x) ∧
        Event.Fails e err) ∧
    (∀ before e after err, tree.events = before ++ e :: after → (∀ b ∈ before, ∀ x, ¬ Event.Fails b x) →
      Event.Fails e err →
        err.failure = .fault (.rendering
          s!"{e.node.kind.name} node requires a string '{err.field}', got NoneType"
          (some e.node.kind.name) none) ∧
        (e.node.kind = .tag .link → ∀ n x, Node.Below n e.node → ¬ Lacks n x)) ∧
    ∀ payload metadata,
      (render o (.mk tree.kind payload metadata tree.children)).text = (render o tree).text := by
  refine ⟨?_, ?_, ?_, render_text_root o tree⟩
  · have clean : firstDefect tree = none ↔ ∀ n : Node, n.Below tree → ∀ err, ¬ Lacks n err := by
      simp only [← complete_iff]
      exact (defectIn_eq_none_iff tree.children).trans everyIn_children_iff
    simp only [render_text_eq_error_iff, ← Option.ne_none_iff_exists', ne_eq, clean, not_forall,
      not_not, exists_prop, exists_and_left]
  · intro err
    rw [render_text_eq_error_iff, ← findSome?_defect_events o, List.findSome?_map,
      List.findSome?_eq_some_iff]
    simp only [Function.comp, effect_defect_eq_some_iff, effect_defect_eq_none_iff]
    constructor
    · rintro ⟨before, e, after, listed, fails, fine⟩
      exact ⟨before, e, after, listed, fine, fails⟩
    · rintro ⟨before, e, after, listed, fine, fails⟩
      exact ⟨before, e, after, listed, fails, fine⟩
  · rintro before e after err listed fine ⟨lacks, phase⟩
    refine ⟨?_, ?_⟩
    · rw [lacks.kind_eq]
      rfl
    · intro link
      have tag : err.tag = .link := Kind.tag.inj (lacks.kind_eq.symm.trans link)
      have leaving : e.entering = false := by rw [phase, tag]; rfl
      obtain ⟨front, rfl⟩ := exists_of_leaving tree listed leaving
      intro n x below
      refine not_lacks_of_events ?_ n below x
      intro b mem
      exact fine b (List.mem_append_right front (List.mem_cons_of_mem _ mem))

/-- The text within a link is entered before the link is left. -/
example : (render {} (.mk (.tag .root) {} [] [.mk (.tag .link) {} [] [.mk (.tag .text) {} [] []]])).text
    = .error ⟨.text, "value"⟩ := by cbv

end PlainText

end Unmark
