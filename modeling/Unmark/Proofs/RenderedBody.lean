import Unmark.PlainText.Body
import Unmark.Proofs.WalkEffects
import Mathlib.Data.List.Induction

/-
Module: Unmark.Proofs.RenderedBody
Layer: Proofs
Purpose: A rendering comes to the body of its tree. The traversal decides on a separator twice, on
  leaving the left neighbour and on entering the right one; `gapAfter_eq_behind_append_before` says that the
  two decisions together are one gap. From it the fragments written below a parent are its body, for
  every place in a list of siblings, and the defect that stops the traversal is the first one of the
  tree.
Main exports: findSome?_defect_events, bodyFrom_append, flatMap_written_events, render_text_eq_error_iff,
  render_text_eq_ok_iff, render_text_congr, render_text_eq_body
-/

namespace Unmark.PlainText

/-! ### Where a rendering stops -/

/-- A node stops a rendering on being entered, below itself, or on being left, in this order. -/
theorem defectOf_eq_or (o : Options) (parent : Node) (i : Nat) (n : Node) :
    defectOf n =
      ((effect o ⟨n, parent, i, true⟩).defect.or (defectIn n.children)).or
        (effect o ⟨n, parent, i, false⟩).defect := by
  obtain ⟨k, p, md, cs⟩ := n
  cases k with
  | foreign name fresh => simp [defectOf, effect]
  | tag t =>
      cases t
      case link => cases url : p.url <;> simp [defectOf, effect, url]
      all_goals cases value : p.value <;> simp [defectOf, effect, missing, value]

mutual

/-- The first defect among the effects of a traversal is the first one of the tree. -/
theorem findSome?_defect_events (o : Options) :
    ∀ n : Node, (n.events.map (effect o)).findSome? Effect.defect = firstDefect n
  | .mk k p md cs => by
      rw [Node.events]
      exact findSome?_defect_eventsFrom o (.mk k p md cs) 0 cs

/-- The same for the children of one parent. -/
theorem findSome?_defect_eventsFrom (o : Options) (parent : Node) :
    ∀ (i : Nat) (cs : List Node),
      ((Node.eventsFrom parent i cs).map (effect o)).findSome? Effect.defect = defectIn cs
  | _, [] => rfl
  | i, c :: cs => by
      have inner := findSome?_defect_events o c
      have rest := findSome?_defect_eventsFrom o parent (i + 1) cs
      rw [firstDefect] at inner
      rw [defectIn, defectOf_eq_or o parent i c, ← inner, ← rest]
      simp only [Node.eventsFrom, List.cons_append, List.map_cons, List.map_append,
        List.findSome?_cons, List.findSome?_append]
      cases (effect o ⟨c, parent, i, true⟩).defect with
      | some d => rfl
      | none =>
          cases (effect o ⟨c, parent, i, false⟩).defect <;> simp

end

/-! ### What is written around one node -/

/-- What a node writes on being entered, besides separators. -/
def opening (o : Options) (n : Node) : List Fragment :=
  match n.kind with
  | .tag .text | .tag .inlineCode | .tag .code => fieldFragments .literal n.payload.value
  | .tag .link => [⟨.mark, "["⟩]
  | .tag .strikethrough => [⟨.mark, "("⟩, ⟨.mark, o.strikethroughPhrase⟩]
  | _ => []

/-- What a node writes on being left, besides separators. -/
def closing (n : Node) : List Fragment :=
  match n.kind with
  | .tag .link =>
    ⟨.mark, "]"⟩ :: ⟨.mark, "("⟩ :: fieldFragments .mark n.payload.url ++ [⟨.mark, ")"⟩]
  | .tag .strikethrough => [⟨.mark, ")"⟩]
  | _ => []

/-- The text of a node without defects is its body between what it writes at its two ends. -/
theorem textOf_eq_append (o : Options) {n : Node} (clean : defectOf n = none) :
    textOf o n = opening o n ++ bodyFrom o n.kind none n.children ++ closing n := by
  obtain ⟨k, p, md, cs⟩ := n
  cases k with
  | foreign name fresh => simp [textOf, opening, closing]
  | tag t =>
      cases t
      case link =>
        cases url : p.url <;> simp_all [defectOf, textOf, opening, closing, fieldFragments]
      all_goals
        cases value : p.value <;> simp_all [defectOf, textOf, opening, closing, fieldFragments]

/-- The separator in front of a block that follows a neighbour which is no block. -/
def before (o : Options) (parent : Kind) (left : Option Kind) (right : Kind) : List Fragment :=
  if parent.isBlockParent && right.isBlockRuled && (left.map Kind.isBlockRuled == some false) then
    [⟨.separator, o.blockSeparator⟩]
  else []

/-- The separator behind a block that is followed by a neighbour. -/
def behind (o : Options) (parent : Kind) (left : Option Kind) (followed : Bool) : List Fragment :=
  if parent.isBlockParent && (left.map Kind.isBlockRuled == some true) && followed then
    [⟨.separator, o.blockSeparator⟩]
  else []

/-- A gap is what the left neighbour leaves behind it and what the right one puts before it: at most
    one of the two writes a separator. -/
theorem gapAfter_eq_behind_append_before (o : Options) (parent : Kind) (left : Option Kind)
    (right : Kind) :
    gapAfter o parent left right = behind o parent left true ++ before o parent left right := by
  cases left with
  | none => simp [gapAfter, behind, before]
  | some l =>
      cases parent.isBlockParent <;> cases hl : l.isBlockRuled <;> cases hr : right.isBlockRuled <;>
        simp [gapAfter, gap, behind, before, *]

/-! ### Siblings

The events of the children of a parent from some position on are read with the children in front of
that position, of which only the last one matters: it is the left neighbour.
-/

/-- The kind of the left neighbour that the position behind `front` has. -/
def neighbour (front : List Node) : Option Kind := front.getLast?.map Node.kind

theorem neighbour_append_singleton (front : List Node) (c : Node) :
    neighbour (front ++ [c]) = some c.kind := by
  simp [neighbour]

/-- The left neighbour that the siblings behind `ns` have. -/
theorem neighbour_cons (n : Node) (ns : List Node) (left : Option Kind) :
    (neighbour (n :: ns)).or left = (neighbour ns).or (some n.kind) := by
  cases last : ns.getLast? <;> simp [neighbour, List.getLast?_cons, last]

/-- The body of two lists of siblings: the last one in front is the left neighbour of those behind. -/
theorem bodyFrom_append (o : Options) (parent : Kind) (left : Option Kind) (ns ms : List Node) :
    bodyFrom o parent left (ns ++ ms) =
      bodyFrom o parent left ns ++ bodyFrom o parent ((neighbour ns).or left) ms := by
  induction ns generalizing left with
  | nil => simp [bodyFrom, neighbour]
  | cons n ns ih => simp only [List.cons_append, bodyFrom, ih, neighbour_cons, List.append_assoc]

/-- What the sibling in front of a position is, by what stands in front of it. -/
theorem previousIsBlock_eq {parent : Node} {front cs : List Node} (h : parent.children = front ++ cs) :
    (0 < front.length && !previousIsBlock parent front.length)
      = ((neighbour front).map Kind.isBlockRuled == some false) := by
  cases front using List.reverseRecOn with
  | nil => simp [neighbour]
  | append_singleton front c =>
      have at_index : (parent.children)[front.length]? = some c := by simp [h]
      simp [previousIsBlock, neighbour, at_index]

/-- A node writes its separator and its opening on being entered. -/
theorem written_entering (o : Options) {parent c : Node} {front cs : List Node}
    (place : parent.children = front ++ c :: cs) :
    (effect o ⟨c, parent, front.length, true⟩).written
      = before o parent.kind (neighbour front) c.kind ++ opening o c := by
  have wanted := previousIsBlock_eq place
  obtain ⟨k, p, md, ccs⟩ := c
  cases k with
  | foreign name fresh => simp [effect, before, opening, Kind.isBlockRuled]
  | tag t =>
      cases t <;>
        simp [effect, separation, before, opening, Kind.isBlockRuled, Tag.isBlockRuled, ← wanted]

/-- A node without defects writes its closing and its separator on being left. -/
theorem written_leaving (o : Options) {parent c : Node} {front cs : List Node}
    (place : parent.children = front ++ c :: cs) (clean : defectOf c = none) :
    (effect o ⟨c, parent, front.length, false⟩).written
      = closing c ++ behind o parent.kind (some c.kind) (!cs.isEmpty) := by
  have follows : decide (front.length + 1 < parent.children.length) = !cs.isEmpty := by
    rw [place]
    cases cs <;> simp
  obtain ⟨k, p, md, ccs⟩ := c
  cases k with
  | foreign name fresh => simp [effect, behind, closing, Kind.isBlockRuled]
  | tag t =>
      cases t
      case link =>
        cases url : p.url <;>
          simp_all [effect, behind, closing, Kind.isBlockRuled, Tag.isBlockRuled, fieldFragments,
            defectOf]
      all_goals
        simp [effect, separation, behind, closing, Kind.isBlockRuled, Tag.isBlockRuled, follows]

mutual

/-- A traversal without defects writes the body of the tree. -/
theorem flatMap_written_events (o : Options) :
    ∀ n : Node, firstDefect n = none →
      (n.events.map (effect o)).flatMap Effect.written = body o n
  | .mk k p md cs, clean => by
      have whole := flatMap_written_eventsFrom o (.mk k p md cs) [] cs rfl clean
      simpa [neighbour, behind, Node.events, body] using whole

/-- The children of a parent from a position on write what follows the separator that the left
    neighbour has left behind it. -/
theorem flatMap_written_eventsFrom (o : Options) (parent : Node) :
    ∀ (front cs : List Node), parent.children = front ++ cs → defectIn cs = none →
      behind o parent.kind (neighbour front) (!cs.isEmpty)
          ++ ((Node.eventsFrom parent front.length cs).map (effect o)).flatMap Effect.written
        = bodyFrom o parent.kind (neighbour front) cs
  | front, [], _, _ => by simp [Node.eventsFrom, bodyFrom, behind]
  | front, c :: cs, place, clean => by
      rw [defectIn, Option.or_eq_none_iff] at clean
      have inner : firstDefect c = none := by
        have := clean.1
        rw [defectOf_eq_or o parent front.length c] at this
        simp_all [firstDefect]
      have next : parent.children = (front ++ [c]) ++ cs := by simp [place]
      have rest := flatMap_written_eventsFrom o parent (front ++ [c]) cs next clean.2
      rw [neighbour_append_singleton, List.length_append, List.length_singleton] at rest
      have below := flatMap_written_events o c inner
      simp only [Node.eventsFrom, List.cons_append, List.map_cons, List.map_append,
        List.flatMap_cons, List.flatMap_append, written_entering o place,
        written_leaving o place clean.1, below, bodyFrom, textOf_eq_append o clean.1,
        gapAfter_eq_behind_append_before, ← rest]
      simp [body]

end

/-! ### The text of a rendering -/

section Text

variable (o : Options) {tree : Node}

theorem render_text_of_defect {e : RenderError} (defect : firstDefect tree = some e) :
    (render o tree).text = .error e := by
  have outcome := runEffects_outcome (tree.events.map (effect o)) {}
  rw [findSome?_defect_events, defect] at outcome
  simp [render, typeset_eq_runEffects, outcome, Except.map]

theorem render_text_of_clean (clean : firstDefect tree = none) :
    (render o tree).text = .ok (String.join ((body o tree).map Fragment.text)) := by
  have found := (findSome?_defect_events o tree).trans clean
  have outcome := runEffects_outcome (tree.events.map (effect o)) {}
  have written := runEffects_written found {}
  rw [found] at outcome
  rw [flatMap_written_events o tree clean] at written
  simp [render, typeset_eq_runEffects, outcome, Except.map, pageText, written]

theorem render_text_eq_error_iff {e : RenderError} :
    (render o tree).text = .error e ↔ firstDefect tree = some e := by
  cases defect : firstDefect tree with
  | some d => simp [render_text_of_defect o defect]
  | none => simp [render_text_of_clean o defect]

theorem render_text_eq_ok_iff {text : String} :
    (render o tree).text = .ok text ↔
      firstDefect tree = none ∧ String.join ((body o tree).map Fragment.text) = text := by
  cases defect : firstDefect tree with
  | some d => simp [render_text_of_defect o defect]
  | none => simp [render_text_of_clean o defect]

/-- Trees with the same body and the same first defect are rendered alike. -/
theorem render_text_congr {tree' : Node} (same : body o tree' = body o tree)
    (defect : firstDefect tree' = firstDefect tree) : (render o tree').text = (render o tree).text := by
  cases first : firstDefect tree with
  | some d => rw [render_text_of_defect o first, render_text_of_defect o (defect.trans first)]
  | none => rw [render_text_of_clean o first, render_text_of_clean o (defect.trans first), same]

end Text

/-- A rendering stops at the first defect of the tree; without one, its text is the body of the tree:
    the texts of the children of the root, with gaps between them, put together at every level. -/
theorem render_text_eq_body (o : Options) (tree : Node) :
    (render o tree).text =
      match firstDefect tree with
      | some e => .error e
      | none => .ok (String.join ((body o tree).map Fragment.text)) := by
  cases defect : firstDefect tree with
  | some e => exact render_text_of_defect o defect
  | none => exact render_text_of_clean o defect

end Unmark.PlainText
