import Mathlib
import Unmark.Proofs.ParsedTree

/-
Module: Unmark.Proofs.DocumentEnds
Layer: Proofs
Purpose: What the nodes of front matter and of definitions do to the text of a document. They print nothing
  and are no blocks, but they are siblings of the body: a block at an end of the body separates itself from
  them. However many they are, the text of the document is that of its body with at most one separator at
  each end.
Main exports: Invisible, bodyFrom_invisible, endSeparator, bodyFrom_between,
  render_with_end_nodes
-/

namespace Unmark

namespace PlainText

open Node

variable (o : Options) (parent : Kind)

/-! ### The gap in front of siblings -/

/-- The gap between a left neighbour and the first of its right siblings. -/
def gapBefore (left : Option Kind) (ns : List Node) : List Fragment :=
  match ns.head? with
  | some n => gapAfter o parent left n.kind
  | none => []

/-- The left neighbour of siblings counts for the gap in front of them only. -/
theorem bodyFrom_eq_gapBefore_append (left : Option Kind) (ns : List Node) :
    bodyFrom o parent left ns = gapBefore o parent left ns ++ bodyFrom o parent none ns := by
  cases ns with
  | nil => rfl
  | cons n ns => simp [bodyFrom, gapBefore, gapAfter]

/-! ### Nodes that print nothing -/

/-- A node that prints nothing and is not separated from its siblings by itself. -/
structure Invisible (n : Node) : Prop where
  plain : n.kind.isBlockRuled = false
  blank : ∀ o : Options, textOf o n = []

/-- Front matter and definitions are invisible. -/
theorem invisible_of_kind {n : Node} (kind : n.kind = .tag .frontMatter ∨ n.kind = .tag .definition)
    (leaf : n.children = []) : Invisible n := by
  obtain ⟨k, p, md, cs⟩ := n
  rw [children_mk] at leaf
  rcases kind with rfl | rfl <;> subst leaf
  · exact ⟨rfl, fun o => by simp [textOf, bodyFrom]⟩
  · exact ⟨rfl, fun o => by simp [textOf, bodyFrom]⟩

/-- A separator on one side of nodes that print nothing, when there are such nodes and a block is their
    neighbour on this side. -/
def endFragments (beyond : List Node) (last : Option Kind) : List Fragment :=
  if !beyond.isEmpty && last.any Kind.isBlockRuled then [⟨.separator, o.blockSeparator⟩] else []

/-- Nodes that print nothing leave a separator behind a block and no other trace. -/
theorem bodyFrom_invisible {ns : List Node} (invisible : ∀ n ∈ ns, Invisible n) (left : Option Kind) :
    bodyFrom o (.tag .root) left ns = endFragments o ns left := by
  induction ns generalizing left with
  | nil => simp [bodyFrom, endFragments]
  | cons n ns ih =>
      obtain ⟨first, rest⟩ := List.forall_mem_cons.1 invisible
      have silent : endFragments o ns (some n.kind) = [] := by simp [endFragments, first.plain]
      rw [bodyFrom, ih rest, silent, first.blank]
      cases left with
      | none => simp [gapAfter, endFragments]
      | some k =>
          cases block : k.isBlockRuled <;>
            simp [gapAfter, gap, endFragments, block, first.plain, Kind.isBlockParent, Tag.isBlockParent]

/-- The last of nodes that print nothing is no block. -/
theorem neighbour_invisible {ns : List Node} (invisible : ∀ n ∈ ns, Invisible n) :
    (neighbour ns).any Kind.isBlockRuled = false := by
  cases last : ns.getLast? with
  | none => simp [neighbour, last]
  | some n => simp [neighbour, last, (invisible n (List.mem_of_getLast? last)).plain]

/-- The body of siblings between nodes that print nothing. -/
theorem bodyFrom_between {front ns back : List Node} (before : ∀ n ∈ front, Invisible n)
    (behind : ∀ n ∈ back, Invisible n) :
    bodyFrom o (.tag .root) none (front ++ ns ++ back) =
      endFragments o front (ns.head?.map Node.kind) ++ bodyFrom o (.tag .root) none ns
        ++ endFragments o back (ns.getLast?.map Node.kind) := by
  have start : bodyFrom o (.tag .root) none front = [] := by
    rw [bodyFrom_invisible o before]
    simp [endFragments]
  have plain := neighbour_invisible before
  cases ns with
  | nil =>
      -- Without a body there is no block on either side.
      have silent : endFragments o back (neighbour front) = [] := by simp [endFragments, plain]
      rw [List.append_nil, bodyFrom_append, start, Option.or_none, bodyFrom_invisible o behind, silent]
      simp [bodyFrom, endFragments]
  | cons n ns =>
      have gap : gapBefore o (.tag .root) (neighbour front) (n :: ns) = endFragments o front (some n.kind) := by
        cases last : front.getLast? with
        | none =>
            rw [List.getLast?_eq_none_iff] at last
            subst last
            rfl
        | some l =>
            have some_front : front ≠ [] := by
              rintro rfl
              cases last
            have block : l.kind.isBlockRuled = false := (before l (List.mem_of_getLast? last)).plain
            simp [gapBefore, gapAfter, PlainText.gap, endFragments, neighbour, last, block, some_front,
              Kind.isBlockParent, Tag.isBlockParent]
      have last : (neighbour (front ++ n :: ns)).or none = neighbour (n :: ns) := by
        simp [neighbour, List.getLast?_append, List.getLast?_cons]
      rw [bodyFrom_append, bodyFrom_append, start, List.nil_append, Option.or_none,
        bodyFrom_eq_gapBefore_append, gap, last, bodyFrom_invisible o behind]
      rfl

/-! ### The text of a document -/

/-- The separator between a block at an end of a body and the nodes beyond this end, if there are any. -/
def endSeparator (beyond : List Node) (last : Option Node) : String :=
  if !beyond.isEmpty && last.any (fun n => n.kind.isBlockRuled) then o.blockSeparator else ""

theorem join_endFragments (beyond : List Node) (last : Option Node) :
    String.join ((endFragments o beyond (last.map Node.kind)).map Fragment.text)
      = endSeparator o beyond last := by
  unfold endFragments endSeparator
  rw [Option.any_map]
  split <;> simp_all

/-- A document of printable nodes is rendered as its body. -/
theorem render_text_of_printable {tree : Node} (printable : EveryIn Printable tree.children) :
    (render o tree).text = .ok (String.join ((body o tree).map Fragment.text)) := by
  have complete : firstDefect tree = none :=
    (defectIn_eq_none_iff tree.children).2 (EveryIn.imp (fun _ fine => fine.2) _ printable)
  exact render_text_of_clean o complete

/-- The text of a document with invisible nodes around its body. -/
theorem render_text_between {tree whole : Node} {front back : List Node} (root : tree.kind = .tag .root)
    (root' : whole.kind = .tag .root) (split : whole.children = front ++ tree.children ++ back)
    (before : ∀ n ∈ front, Invisible n) (behind : ∀ n ∈ back, Invisible n)
    (printable : EveryIn Printable whole.children) :
    ∃ s, (render o tree).text = .ok s ∧ (render o whole).text =
      .ok (endSeparator o front tree.children.head? ++ s ++ endSeparator o back tree.children.getLast?) := by
  have inner : EveryIn Printable tree.children := by
    rw [split, everyIn_append, everyIn_append] at printable
    exact printable.1.2
  refine ⟨_, render_text_of_printable o inner, ?_⟩
  rw [render_text_of_printable o printable, body, body, root, root', split, bodyFrom_between o before behind,
    List.map_append, List.map_append, String.join_append, String.join_append, join_endFragments,
    join_endFragments]

end PlainText

namespace Markdown

open Node PlainText

/-- Neither option for nodes at the ends has a part in taking front matter off or in reading the tokens. -/
theorem parse_with_end_nodes {o : Options} {text : String} {p : Parsed}
    (parsed : parse { o with frontMatterNode := false, definitionNodes := false } text = .ok p) :
    p.tree.kind = .tag .root ∧
    (∀ n ∈ p.tree.children, n.kind ≠ .tag .definition ∧ n.kind ≠ .tag .frontMatter) ∧
    ∃ q found env, parse o text = .ok q ∧ q.tree.kind = .tag .root ∧
      q.tree.children = frontMatterNodes o found ++ p.tree.children ++ definitionNodes o env := by
  obtain ⟨e, taken, rfl⟩ := parse_eq_ok_iff.1 parsed
  have alone : (Document.treeOf { o with frontMatterNode := false, definitionNodes := false } e.found
      (tokenize o e.rest)).children = blocks (tokenize o e.rest).tokens := by
    cases found : e.found <;> simp [Document.treeOf, Build.root, frontMatterNodes, definitionNodes]
  refine ⟨rfl, ?_, _, e.found, (tokenize o e.rest).env, parse_eq_ok_iff.2 ⟨e, taken, rfl⟩, rfl, ?_⟩
  · intro n mem
    exact kind_of_mem_blocks _ n (alone ▸ mem)
  · exact congrArg (frontMatterNodes o e.found ++ · ++ definitionNodes o _) alone.symm

/-- A text that is parsed without the nodes of front matter and of definitions is parsed with them as well,
    into the same nodes between them. The text of the whole is the text without them, with one separator in
    front if front matter stands before a block, and one behind if definitions stand behind a block. -/
theorem render_with_end_nodes {o : Options} {text : String} {p : Parsed}
    (parsed : parse { o with frontMatterNode := false, definitionNodes := false } text = .ok p) :
    ∃ q front defs, parse o text = .ok q ∧ q.tree.children = front ++ p.tree.children ++ defs ∧
      (∀ n ∈ front, n.kind = .tag .frontMatter) ∧ (∀ n ∈ defs, n.kind = .tag .definition) ∧
      (∀ n ∈ p.tree.children, n.kind ≠ .tag .definition ∧ n.kind ≠ .tag .frontMatter) ∧
      ∀ plain : PlainText.Options, ∃ s, (render plain p.tree).text = .ok s ∧
        (render plain q.tree).text = .ok (endSeparator plain front p.tree.children.head? ++ s
          ++ endSeparator plain defs p.tree.children.getLast?) := by
  obtain ⟨root, others, q, found, env, whole, root', split⟩ := parse_with_end_nodes parsed
  have front : ∀ n ∈ frontMatterNodes o found, n.kind = .tag .frontMatter ∧ n.children = [] := by
    intro n mem
    obtain ⟨f, -, rfl⟩ := eq_frontMatter_of_mem mem
    exact ⟨rfl, rfl⟩
  have defs : ∀ n ∈ definitionNodes o env, n.kind = .tag .definition ∧ n.children = [] := by
    intro n mem
    obtain ⟨name, url, title, rfl⟩ := eq_definition_of_mem mem
    exact ⟨rfl, rfl⟩
  refine ⟨q, frontMatterNodes o found, definitionNodes o env, whole, split, fun n mem => (front n mem).1,
    fun n mem => (defs n mem).1, others, ?_⟩
  intro plain
  refine render_text_between plain root root' split ?_ ?_ (printable_parsed whole)
  · exact fun n mem => invisible_of_kind (.inl (front n mem).1) (front n mem).2
  · exact fun n mem => invisible_of_kind (.inr (defs n mem).1) (defs n mem).2

/-- Empty front matter and one definition around a paragraph: a separator at each end. -/
theorem render_with_end_nodes_both :
    let o : Options := { frontMatterNode := true, definitionNodes := true }
    ∃ p q, parse {} "---\n---\nx\n\n[r]: /u\n" = .ok p ∧ parse o "---\n---\nx\n\n[r]: /u\n" = .ok q ∧
      (render {} p.tree).text = .ok "x" ∧ (render {} q.tree).text = .ok "\nx\n" := by
  intro o
  let doc := tokenize o "x\n\n[r]: /u\n".toList
  have tokens : blocks doc.tokens = [Build.paragraph [Build.text "x"]] := by cbv
  have links : definitions doc.env.links = [Build.definition "r" (some "/u") none] := by cbv
  have taken : withoutFrontMatter o "---\n---\nx\n\n[r]: /u\n".toList
      = .ok ⟨some ⟨"", .null⟩, "x\n\n[r]: /u\n".toList, []⟩ := rfl
  have parsed : parse { o with frontMatterNode := false, definitionNodes := false }
      "---\n---\nx\n\n[r]: /u\n" = .ok ⟨doc.treeOf {} (some ⟨"", .null⟩), blockDrops doc.tokens⟩ :=
    parse_eq_ok_iff.2 ⟨_, taken, rfl⟩
  have inner : (doc.treeOf {} (some ⟨"", .null⟩)).children = [Build.paragraph [Build.text "x"]] := by
    rw [← tokens]
    exact List.append_nil _
  have outer : (doc.treeOf o (some ⟨"", .null⟩)).children =
      [Build.frontMatter "" .null, Build.paragraph [Build.text "x"], Build.definition "r" (some "/u") none] := by
    rw [Document.treeOf, Build.root, children_mk, tokens, definitionNodes, if_pos rfl, links]
    rfl
  obtain ⟨q, front, defs, whole, split, isFront, isDefs, -, texts⟩ := render_with_end_nodes parsed
  have same : q.tree = doc.treeOf o (some ⟨"", .null⟩) := by
    cases whole.symm.trans (parse_eq_ok_iff.2 ⟨_, taken, rfl⟩)
    rfl
  obtain ⟨s, alone, both⟩ := texts {}
  rw [same, outer, inner] at split
  have some_front : front ≠ [] := by
    rintro rfl
    cases split
  have some_defs : defs ≠ [] := by
    rintro rfl
    have last := congrArg List.getLast? split
    rw [List.append_nil, List.getLast?_append] at last
    cases last
  have plain : (render {} (doc.treeOf {} (some ⟨"", .null⟩))).text = .ok "x" := by cbv
  cases plain.symm.trans alone
  refine ⟨_, q, parsed, whole, plain, both.trans ?_⟩
  rw [inner]
  simp [endSeparator, some_front, some_defs, Build.paragraph, Build.node, Kind.isBlockRuled, Tag.isBlockRuled]

end Markdown

end Unmark
