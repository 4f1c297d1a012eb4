import Unmark.Tree.Build
import Unmark.Proofs.PrintedChars
import Unmark.Proofs.Replacing

/-
Module: Unmark.Proofs.SeparatorChange
Layer: Proofs
Purpose: The same tree with another separator between its blocks. When the separator has no character in common
  with anything else that is printed, it occurs in the output just where it was written, also where two of them
  touch. So replacing its occurrences by the other separator, from left to right, gives the output with the other
  separator. The induction goes over the tree with the replacing of what follows as its hypothesis: a node whose
  texts are kept passes it on, and a gap adds one occurrence in front.
Main exports: Respaced, respaced_textOf, respaced_bodyFrom, render_text_replace
-/

namespace Unmark.PlainText

open Node Text

theorem separator_ne_nil (o : Options) : o.blockSeparator.toList ≠ [] :=
  mt String.toList_eq_nil_iff.1 o.separator_ne

/-- The second text is the first with the separator of the second options in place of that of the first ones. -/
def Respaced (o o' : Options) : List Char → List Char → Prop :=
  Replaced o.blockSeparator.toList o'.blockSeparator.toList

namespace Respaced

variable {o o' : Options} {rest out : List Char} (after : Respaced o o' rest out)

include after

theorem separator_append :
    Respaced o o' (o.blockSeparator.toList ++ rest) (o'.blockSeparator.toList ++ out) :=
  Replaced.hit after

theorem text_append {s : String} (other : Avoids s o.blockSeparator.toList) :
    Respaced o o' (s.toList ++ rest) (s.toList ++ out) :=
  Replaced.append_of_not_mem (separator_ne_nil o) other after

theorem bracket_cons (marks : Avoids o.blockSeparator brackets) {c : Char} (bracket : c ∈ brackets) :
    Respaced o o' (c :: rest) (c :: out) :=
  Replaced.cons_of_not_mem (separator_ne_nil o) (fun mem => marks c mem bracket) after

end Respaced

mutual

/-- The text of a node in front of what is replaced already. -/
theorem respaced_textOf {o o' : Options} (same : o'.strikethroughPhrase = o.strikethroughPhrase)
    (marks : Avoids o.blockSeparator brackets) (phrase : Avoids o.strikethroughPhrase o.blockSeparator.toList) :
    ∀ n : Node, (∀ m ∈ n :: n.descendants, Avoids m.ownText o.blockSeparator.toList) →
      ∀ {rest out : List Char}, Respaced o o' rest out →
        Respaced o o' (chars (textOf o n) ++ rest) (chars (textOf o' n) ++ out)
  | .mk k p md cs, own, rest, out, after => by
      obtain ⟨here, below⟩ := List.forall_mem_cons.1 own
      rw [descendants] at below
      have within {rest out : List Char} (after : Respaced o o' rest out) :
          Respaced o o' (charsBelow o (.mk k p md cs) ++ rest) (charsBelow o' (.mk k p md cs) ++ out) :=
        respaced_bodyFrom same marks phrase k none cs below after
      by_cases link : k = .tag .link
      · subst link
        have closed := after.bracket_cons marks (c := ')') (by decide)
        have url := (closed.text_append here).bracket_cons marks (c := '(') (by decide)
        have text := within (url.bracket_cons marks (c := ']') (by decide))
        rw [chars_textOf_link o rfl, chars_textOf_link o' rfl]
        simpa using text.bracket_cons marks (c := '[') (by decide)
      · by_cases struck : k = .tag .strikethrough
        · subst struck
          have text := within (after.bracket_cons marks (c := ')') (by decide))
          rw [chars_textOf_struck o rfl, chars_textOf_struck o' rfl, same]
          simpa using (text.text_append phrase).bracket_cons marks (c := '(') (by decide)
        · rw [chars_textOf_unmarked o (n := .mk k p md cs) link struck,
            chars_textOf_unmarked o' (n := .mk k p md cs) link struck]
          simpa using (within after).text_append here

/-- The texts of siblings in front of what is replaced already: where there is a gap with one separator, there
    is a gap with the other. -/
theorem respaced_bodyFrom {o o' : Options} (same : o'.strikethroughPhrase = o.strikethroughPhrase)
    (marks : Avoids o.blockSeparator brackets) (phrase : Avoids o.strikethroughPhrase o.blockSeparator.toList)
    (parent : Kind) :
    ∀ (left : Option Kind) (ns : List Node),
      (∀ m ∈ descendantsIn ns, Avoids m.ownText o.blockSeparator.toList) → ∀ {rest out : List Char},
        Respaced o o' rest out →
          Respaced o o' (chars (bodyFrom o parent left ns) ++ rest) (chars (bodyFrom o' parent left ns) ++ out)
  | _, [], _, _, _, after => after
  | left, n :: ns, own, rest, out, after => by
      rw [descendantsIn, ← List.cons_append] at own
      obtain ⟨first, others⟩ := List.forall_mem_append.1 own
      have behind := respaced_bodyFrom same marks phrase parent (some n.kind) ns others after
      have text := respaced_textOf same marks phrase n first behind
      simp only [bodyFrom, chars_append, List.append_assoc, chars_gapAfter]
      split
      · exact text.separator_append
      · exact text

end

/-- Another separator between blocks replaces the separator in the output, from left to right, when no character
    of the first one is a bracket or is in the phrase or in a text of a node. The error of a rendering that stops
    does not depend on the separator. -/
theorem render_text_replace {o o' : Options} {tree : Node}
    (same : o'.strikethroughPhrase = o.strikethroughPhrase) (marks : Avoids o.blockSeparator brackets)
    (phrase : Avoids o.strikethroughPhrase o.blockSeparator.toList)
    (own : ∀ n ∈ tree.descendants, Avoids n.ownText o.blockSeparator.toList) :
    (render o' tree).text = (render o tree).text.map (·.replace o.blockSeparator o'.blockSeparator) := by
  obtain ⟨k, p, md, cs⟩ := tree
  rw [descendants] at own
  cases defect : firstDefect (.mk k p md cs) with
  | some d =>
      rw [render_text_of_defect o defect, render_text_of_defect o' defect]
      rfl
  | none =>
      have written := respaced_bodyFrom same marks phrase k none cs own .nil
      have found := replaced_replace o.separator_ne o'.blockSeparator
        (String.join ((body o (.mk k p md cs)).map Fragment.text))
      rw [toList_join_text] at found
      rw [List.append_nil, List.append_nil] at written
      have text := Replaced.unique (separator_ne_nil o) written found
      rw [render_text_of_clean o defect, render_text_of_clean o' defect, Except.map]
      exact congrArg Except.ok (String.toList_inj.1 ((toList_join_text _).trans text))

/-- Two separators that touch around a thematic break, and two that are apart. -/
theorem render_text_replace_touching :
    let o : Options := { blockSeparator := "--" }
    let o' : Options := { blockSeparator := "-,-" }
    let item := Build.listItem none [Build.paragraph [Build.text "x"], Build.thematicBreak,
      Build.paragraph [Build.link (some "u,v") none []]]
    let document := Build.root [Build.list false none [item], Build.code "y" none] []
    (render o document).text = .ok "x----[](u,v)--y" ∧
      (render o' document).text = .ok "x-,--,-[](u,v)-,-y" ∧
      (render o' document).text = (render o document).text.map (·.replace "--" "-,-") := by
  intro o o' item document
  exact ⟨rfl, rfl, render_text_replace rfl (by decide) (by decide) (by decide)⟩

end Unmark.PlainText
