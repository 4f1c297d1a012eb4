import Unmark.Proofs.Descendants
import Unmark.Proofs.RenderFailures

/-
Module: Unmark.Proofs.ForeignNames
Layer: Proofs
Purpose: What a rendering logs. Entering a node of a foreign kind notes its name, and the page keeps the names
  that it has met without repetition (`foreignNames_on`, the step; `foreignNames_runEffects`, the run). So the
  log has one record for each foreign name among the nodes that are entered, in the order in which the names
  are met first, whether the rendering comes to its end or stops on the way. The option for warnings decides
  on the severity of the records and on nothing else.
Main exports: Node.foreignNames, foreignNames_on, foreignNames_runEffects, exists_first_failure, render_log
-/

namespace Unmark

/-- The names of the foreign kinds of nodes, with repetitions. -/
def Node.foreignNames (ns : List Node) : List String := ns.filterMap fun n => n.kind.foreignName?

namespace PlainText

open Node

/-! ### Names on the page -/

/-- What events note are the foreign names among the nodes that they enter. -/
theorem filterMap_noted_effects (o : Options) (es : List Event) :
    (es.map (effect o)).filterMap Effect.noted = foreignNames (entered es) := by
  induction es with
  | nil => rfl
  | cons e es ih =>
      obtain ⟨n, parent, i, entering⟩ := e
      rw [List.map_cons, List.filterMap_cons, effect_noted]
      cases entering with
      | true => simp only [if_true, ih, entered_entering, foreignNames, List.filterMap_cons]
      | false => exact ih

/-- A page that has the names met so far without repetition has them so after an effect. -/
theorem foreignNames_on {page : Page} {names : List String}
    (kept : page.foreignNames.reverse = names.eraseDups) (x : Effect) :
    (x.on page).foreignNames.reverse = (names ++ x.noted.toList).eraseDups := by
  rw [List.eraseDups_append, ← kept]
  cases noted : x.noted with
  | none => simp [Effect.on, noted]
  | some name =>
      have known_iff : name ∈ page.foreignNames ↔ name ∈ names := by
        rw [← List.mem_reverse, kept, List.mem_eraseDups]
      by_cases known : name ∈ names
      · simp [Effect.on, noted, known_iff.2 known, List.removeAll, known]
      · simp [Effect.on, noted, known_iff, List.removeAll, known, List.eraseDups_cons]

/-- A run of effects without defects keeps the names that are met, in the order in which they are met first,
    without repetition. -/
theorem foreignNames_runEffects {xs : List Effect} (clean : ∀ x ∈ xs, x.defect = none) {page : Page}
    (names : List String) (kept : page.foreignNames.reverse = names.eraseDups) :
    (runEffects xs page).2.foreignNames.reverse = (names ++ xs.filterMap Effect.noted).eraseDups := by
  induction xs generalizing page names with
  | nil => rw [List.filterMap_nil, List.append_nil, ← kept, runEffects]
  | cons x xs ih =>
      obtain ⟨first, rest⟩ := List.forall_mem_cons.1 clean
      have after := ih rest _ (foreignNames_on kept x)
      rw [runEffects, first, List.filterMap_cons]
      cases noted : x.noted with
      | none => simpa [noted] using after
      | some name => simpa [noted] using after

/-! ### The log of a rendering -/

/-- The records about the foreign kinds of nodes: one for every name. -/
def foreignRecords (o : Options) (ns : List Node) : List Log.Record :=
  (foreignNames ns).eraseDups.map (foreignRecord o)

/-- Events that do not fail have effects without defects. -/
theorem clean_effects (o : Options) {es : List Event} (fine : ∀ e ∈ es, ∀ err, ¬ Event.Fails e err) :
    ∀ x ∈ es.map (effect o), x.defect = none := by
  intro x mem
  obtain ⟨e, among, rfl⟩ := List.mem_map.1 mem
  exact (effect_defect_eq_none_iff o).2 (fine e among)

/-- The log of a rendering that is through with some events, none of which fails. -/
theorem log_of_events (o : Options) {es : List Event} (fine : ∀ e ∈ es, ∀ err, ¬ Event.Fails e err) :
    (runEffects (es.map (effect o)) {}).2.foreignNames.reverse.map (foreignRecord o)
      = foreignRecords o (entered es) := by
  rw [foreignNames_runEffects (clean_effects o fine) [] rfl, filterMap_noted_effects]
  rfl

/-- An event that fails is one of a known kind, so it notes nothing. -/
theorem foreignNames_on_of_fails (o : Options) {e : Event} {err : RenderError} (fails : Event.Fails e err)
    (page : Page) : ((effect o e).on page).foreignNames = page.foreignNames := by
  have noted : (effect o e).noted = none := by
    rw [effect_noted, fails.1.kind_eq]
    exact ite_self none
  simp only [Effect.on, noted]

/-- A rendering comes to its end only when none of its events fails. -/
theorem not_fails_of_ok (o : Options) {tree : Node} {text : String}
    (rendered : (render o tree).text = .ok text) : ∀ e ∈ tree.events, ∀ err, ¬ Event.Fails e err := by
  have clean := ((render_text_eq_ok_iff o).1 rendered).1
  rw [← findSome?_defect_events o tree, List.findSome?_eq_none_iff] at clean
  intro e mem
  exact (effect_defect_eq_none_iff o).1 (clean _ (List.mem_map_of_mem mem))

/-- A rendering that stops does so at the first event that fails. -/
theorem exists_first_failure (o : Options) {tree : Node} {err : RenderError}
    (stopped : (render o tree).text = .error err) :
    ∃ before e after, tree.events = before ++ e :: after ∧ (∀ b ∈ before, ∀ x, ¬ Event.Fails b x) ∧
      Event.Fails e err := by
  rw [render_text_eq_error_iff, ← findSome?_defect_events o, List.findSome?_map,
    List.findSome?_eq_some_iff] at stopped
  obtain ⟨before, e, after, listed, defect, fine⟩ := stopped
  exact ⟨before, e, after, listed, fun b mem => (effect_defect_eq_none_iff o).1 (fine b mem),
    (effect_defect_eq_some_iff o).1 defect⟩

/-- The log of a rendering has one record for every foreign name among the nodes that were entered, in the
    order in which the names were met first: among all nodes below the root when the rendering comes to its
    end, and among those entered before the first event that fails when it stops there. All records are
    warnings when the options ask for warnings, and all are for debugging otherwise. Whether they do makes no
    difference to the text or to the error. -/
theorem render_log (o : Options) (tree : Node) :
    (∀ text, (render o tree).text = .ok text →
      (render o tree).log = foreignRecords o tree.descendants) ∧
    (∀ err, (render o tree).text = .error err →
      ∃ before e after, tree.events = before ++ e :: after ∧ (∀ b ∈ before, ∀ x, ¬ Event.Fails b x) ∧
        Event.Fails e err ∧ (render o tree).log = foreignRecords o (entered before)) ∧
    (∀ r ∈ (render o tree).log, r.severity = if o.warnOnUnknownKinds then .warning else .debug) ∧
    ∀ warned, (render { o with warnOnUnknownKinds := warned } tree).text = (render o tree).text := by
  refine ⟨?_, ?_, ?_, ?_⟩
  · intro text rendered
    have log := log_of_events o (not_fails_of_ok o rendered)
    rw [entered_events] at log
    rw [← log, render, typeset_eq_runEffects]
  · intro err stopped
    obtain ⟨before, e, after, listed, fine, fails⟩ := exists_first_failure o stopped
    refine ⟨before, e, after, listed, fine, fails, ?_⟩
    have defect := (effect_defect_eq_some_iff o).2 fails
    rw [← log_of_events o fine, render, typeset_eq_runEffects, listed, List.map_append, List.map_cons,
      runEffects_append (clean_effects o fine), runEffects, defect]
    simp only [foreignNames_on_of_fails o fails]
  · intro r mem
    obtain ⟨name, -, rfl⟩ := List.mem_map.1 mem
    rfl
  · intro warned
    have effects : effect { o with warnOnUnknownKinds := warned } = effect o := rfl
    simp only [render, typeset_eq_runEffects, effects]

/-- A name that is met again, below a node of the same kind and beside it, and one behind a failure. -/
example :
    let note (cs : List Node) : Node := .mk (Kind.ofName "note") {} [] cs
    let aside : Node := .mk (Kind.ofName "aside") {} [] []
    (render {} (.mk (.tag .root) {} [] [note [note []], .mk (.tag .text) {} [] [], aside])).log
      = [foreignRecord {} "note"] := rfl

end PlainText

end Unmark
