import Unmark.PlainText.Render

/-
Module: Unmark.Proofs.WalkEffects
Layer: Proofs
Purpose: What a traversal does to the page, event by event. A traversal runs its action on the listed
  events in their order (`Node.walk_eq_forM_events`), and the renderer's action on one event has a
  closed form, its `Effect`: the fragments it writes, the foreign name it notes and the defect it stops
  at. A rendering is therefore the run of a list of effects (`typeset_eq_runEffects`), and what is
  shown about renderings is shown about such lists, without the monad.
Main exports: Node.walk_eq_forM_events, Kind.foreignName?, Effect, effect, effect_noted, runEffects,
  runEffects_append, typeset_eq_runEffects, runEffects_outcome, runEffects_written
-/

namespace Unmark

namespace Node

section Walk

variable {m : Type → Type} [Monad m] [LawfulMonad m] (visit : Event → m Unit)

mutual

/-- The reports about a node are those of its entry, of what stands below it, and of its exit. -/
theorem walkAt_eq_forM_events (parent : Node) (i : Nat) : ∀ c : Node,
    walkAt visit parent i c =
      forM (⟨c, parent, i, true⟩ :: c.events ++ [⟨c, parent, i, false⟩]) visit
  | .mk k p md cs => by
      have below := walkFrom_eq_forM_eventsFrom (.mk k p md cs) 0 cs
      simp [walkAt, events, below]

/-- The same for the children of one parent. -/
theorem walkFrom_eq_forM_eventsFrom (parent : Node) : ∀ (i : Nat) (cs : List Node),
    walkFrom visit parent i cs = forM (eventsFrom parent i cs) visit
  | _, [] => by simp [walkFrom, eventsFrom]
  | i, c :: cs => by
      have first := walkAt_eq_forM_events parent i c
      have rest := walkFrom_eq_forM_eventsFrom parent (i + 1) cs
      simp [walkFrom, eventsFrom, first, rest]

end

/-- A traversal runs its action on every listed event, in order. -/
theorem walk_eq_forM_events (n : Node) : n.walk visit = forM n.events visit := by
  obtain ⟨k, p, md, cs⟩ := n
  rw [walk, events]
  exact walkFrom_eq_forM_eventsFrom visit _ 0 cs

end Walk

end Node

/-- The name of a foreign kind. -/
def Kind.foreignName? : Kind → Option String
  | tag _ => none
  | foreign s _ => some s

namespace PlainText

/-- What the renderer does on one event: fragments in writing order, a foreign name that it notes, and
    the defect that it stops at after that. -/
structure Effect where
  written : List Fragment := []
  noted : Option String := none
  defect : Option RenderError := none
deriving DecidableEq

/-- The page after an effect. -/
def Effect.on (x : Effect) (page : Page) : Page where
  written := x.written.reverse ++ page.written
  foreignNames :=
    match x.noted with
    | some name =>
      if page.foreignNames.contains name then page.foreignNames else name :: page.foreignNames
    | none => page.foreignNames

/-- How an effect ends. -/
def Effect.outcome (x : Effect) : Except RenderError Unit :=
  match x.defect with
  | some e => .error e
  | none => .ok ()

/-- The separator that a block writes on an event, if it writes one. -/
def separation (o : Options) (e : Event) : List Fragment :=
  let wanted :=
    if e.entering then 0 < e.index && !previousIsBlock e.parent e.index
    else e.index + 1 < e.parent.children.length
  if e.parent.kind.isBlockParent && wanted then [⟨.separator, o.blockSeparator⟩] else []

/-- A field as a fragment, when it is there. -/
def fieldFragments (role : Role) : Option String → List Fragment
  | some s => [⟨role, s⟩]
  | none => []

/-- The defect of a missing field. -/
def missing (tag : Tag) (field : String) : Option String → Option RenderError
  | some _ => none
  | none => some ⟨tag, field⟩

/-- The effect of an event, by the kind of its node. -/
def effect (o : Options) (e : Event) : Effect :=
  match e.node.kind with
  | .foreign name _ => if e.entering then { noted := some name } else {}
  | .tag t =>
    match t with
    | .paragraph | .heading | .list | .listItem | .blockquote => { written := separation o e }
    | .code =>
      if e.entering then
        { written := separation o e ++ fieldFragments .literal e.node.payload.value
          defect := missing .code "value" e.node.payload.value }
      else { written := separation o e }
    | .text =>
      if e.entering then
        { written := fieldFragments .literal e.node.payload.value
          defect := missing .text "value" e.node.payload.value }
      else {}
    | .inlineCode =>
      if e.entering then
        { written := fieldFragments .literal e.node.payload.value
          defect := missing .inlineCode "value" e.node.payload.value }
      else {}
    | .link =>
      if e.entering then { written := [⟨.mark, "["⟩] }
      else
        match e.node.payload.url with
        | some url => { written := [⟨.mark, "]"⟩, ⟨.mark, "("⟩, ⟨.mark, url⟩, ⟨.mark, ")"⟩] }
        | none => { written := [⟨.mark, "]"⟩, ⟨.mark, "("⟩], defect := some ⟨.link, "url"⟩ }
    | .strikethrough =>
      if e.entering then { written := [⟨.mark, "("⟩, ⟨.mark, o.strikethroughPhrase⟩] }
      else { written := [⟨.mark, ")"⟩] }
    | _ => {}

/-- An event notes the name of a foreign kind when a node of this kind is entered. -/
theorem effect_noted (o : Options) (e : Event) :
    (effect o e).noted = if e.entering then e.node.kind.foreignName? else none := by
  obtain ⟨⟨k, p, m, cs⟩, parent, i, entering⟩ := e
  cases k with
  | foreign name fresh => cases entering <;> rfl
  | tag t =>
      cases t
      case link => cases entering <;> cases url : p.url <;> simp [effect, url, Kind.foreignName?]
      all_goals cases entering <;> rfl

/-! ### The steps of the renderer have these effects -/

/-- A writing step does `x`: it leaves the page as the effect says, and ends as the effect says. -/
def Does (w : Writing Unit) (x : Effect) : Prop :=
  ∀ page : Page, w.run.run page = (x.outcome, x.on page)

theorem does_pure : Does (pure ()) {} := by
  intro page
  rfl

theorem does_write (role : Role) (text : String) :
    Does (write role text) { written := [⟨role, text⟩] } := by
  intro page
  rfl

theorem does_note (name : String) : Does (note name) { noted := some name } := by
  intro page
  change (Except.ok (), if page.foreignNames.contains name then page else
    { page with foreignNames := name :: page.foreignNames }) = _
  by_cases known : name ∈ page.foreignNames <;> simp [Effect.outcome, Effect.on, known]

theorem does_writeField (role : Role) (tag : Tag) (field : String) (value : Option String) :
    Does (writeField role tag field value)
      { written := fieldFragments role value, defect := missing tag field value } := by
  intro page
  cases value with
  | none => rfl
  | some s => rfl

/-- A sequence of two steps runs the second on the page of the first, unless the first one fails. -/
theorem run_bind (w w' : Writing Unit) (page : Page) :
    (w >>= fun _ => w').run.run page =
      match w.run.run page with
      | (.ok _, page') => w'.run.run page'
      | (.error e, page') => (.error e, page') := by
  rw [ExceptT.run_bind, StateT.run_bind]
  cases h : w.run.run page with
  | mk outcome page' =>
      cases outcome with
      | ok _ => rfl
      | error e => rfl

/-- A step after one that wrote `fs` and did not fail. -/
theorem does_bind {w w' : Writing Unit} {fs : List Fragment} {x : Effect}
    (first : Does w { written := fs }) (second : Does w' x) :
    Does (w >>= fun _ => w') { x with written := fs ++ x.written } := by
  intro page
  rw [run_bind, first page]
  change w'.run.run (Effect.on { written := fs } page) = _
  rw [second]
  simp [Effect.outcome, Effect.on]

/-- A step that fails keeps the one after it from running. -/
theorem does_bind_of_defect {w : Writing Unit} {x : Effect} {d : RenderError} (first : Does w x)
    (fails : x.defect = some d) (w' : Writing Unit) : Does (w >>= fun _ => w') x := by
  intro page
  rw [run_bind, first page]
  simp [Effect.outcome, fails]

theorem does_separate (o : Options) (e : Event) :
    Does (separate o e) { written := separation o e } := by
  unfold separate separation
  cases parent : e.parent.kind.isBlockParent with
  | false => exact does_pure
  | true =>
      cases entering : e.entering with
      | true =>
          cases previous : previousIsBlock e.parent e.index with
          | true => simpa using does_pure
          | false =>
              by_cases positive : 0 < e.index
              · simpa [positive] using does_write .separator o.blockSeparator
              · simpa [positive] using does_pure
      | false =>
          by_cases follows : e.index + 1 < e.parent.children.length
          · simpa [follows] using does_write .separator o.blockSeparator
          · simpa [follows] using does_pure

/-- The renderer's action on an event has the effect of that event. -/
theorem does_renderEvent (o : Options) (e : Event) : Does (renderEvent o e) (effect o e) := by
  unfold renderEvent effect
  cases kind : e.node.kind with
  | foreign name fresh =>
      cases e.entering with
      | true => exact does_note name
      | false => exact does_pure
  | tag t =>
      cases entering : e.entering with
      | true =>
          cases t
          case code => exact does_bind (does_separate o e) (does_writeField _ _ _ _)
          case strikethrough => exact does_bind (does_write _ _) (does_write _ _)
          all_goals first
            | exact does_separate o e
            | exact does_writeField _ _ _ _
            | exact does_write _ _
            | exact does_pure
      | false =>
          cases t
          case code => simpa using does_bind (does_separate o e) does_pure
          case link =>
            cases url : e.node.payload.url with
            | some url =>
                exact does_bind (does_write _ _) (does_bind (does_write _ _)
                  (does_bind (does_write _ _) (does_write _ _)))
            | none =>
                have stops := does_bind_of_defect (does_writeField .mark .link "url" none) rfl
                exact does_bind (does_write _ _) (does_bind (does_write _ _) (stops _))
          all_goals first
            | exact does_separate o e
            | exact does_write _ _
            | exact does_pure

/-! ### Running a list of effects -/

/-- Effects one after the other, up to the first that has a defect. -/
def runEffects : List Effect → Page → Except RenderError Unit × Page
  | [], page => (.ok (), page)
  | x :: xs, page =>
    match x.defect with
    | some d => (.error d, x.on page)
    | none => runEffects xs (x.on page)

/-- Effects behind some without a defect run on the page that these leave. -/
theorem runEffects_append {xs : List Effect} (clean : ∀ x ∈ xs, x.defect = none) (ys : List Effect)
    (page : Page) : runEffects (xs ++ ys) page = runEffects ys (runEffects xs page).2 := by
  induction xs generalizing page with
  | nil => rfl
  | cons x xs ih =>
      obtain ⟨first, rest⟩ := List.forall_mem_cons.1 clean
      simp only [List.cons_append, runEffects, first, ih rest]

theorem run_forM_renderEvent (o : Options) (es : List Event) (page : Page) :
    (forM es (renderEvent o)).run.run page = runEffects (es.map (effect o)) page := by
  induction es generalizing page with
  | nil => rfl
  | cons e es ih =>
      rw [List.forM_cons, run_bind, does_renderEvent o e page, List.map_cons, runEffects]
      cases defect : (effect o e).defect with
      | some d => simp [Effect.outcome, defect]
      | none => simp [Effect.outcome, defect, ih]

/-- A rendering runs the effects of the events of the tree on an empty page. -/
theorem typeset_eq_runEffects (o : Options) (tree : Node) :
    typeset o tree = runEffects (tree.events.map (effect o)) {} := by
  rw [typeset, Node.walk_eq_forM_events, run_forM_renderEvent]

/-- A run ends with the first defect, if there is one. -/
theorem runEffects_outcome (xs : List Effect) (page : Page) :
    (runEffects xs page).1 =
      match xs.findSome? Effect.defect with
      | some d => .error d
      | none => .ok () := by
  induction xs generalizing page with
  | nil => rfl
  | cons x xs ih =>
      rw [runEffects, List.findSome?_cons]
      cases defect : x.defect with
      | some d => rfl
      | none => exact ih (x.on page)

/-- A run without defects adds everything that its effects write to the page. -/
theorem runEffects_written {xs : List Effect} (clean : xs.findSome? Effect.defect = none)
    (page : Page) :
    (runEffects xs page).2.written = (xs.flatMap Effect.written).reverse ++ page.written := by
  induction xs generalizing page with
  | nil => rfl
  | cons x xs ih =>
      rw [List.findSome?_cons] at clean
      cases defect : x.defect with
      | some d => simp [defect] at clean
      | none =>
          simp only [defect] at clean
          simp [runEffects, defect, ih clean, Effect.on]

end PlainText

end Unmark
