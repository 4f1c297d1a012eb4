import Unmark.Proofs.ParsedTree

/-
Module: Unmark.Proofs.ContentModel
Layer: Proofs
Purpose: Which nodes stand below which in the tree of a document. Paragraphs and their like hold phrases,
  tables hold rows and rows hold cells, containers hold blocks, and all other nodes are leaves
  (`Tag.admits`). Tokens become such trees whatever their types are and whatever stands below them, since a
  token of a wrong type is dropped by the reader of its place. For the renderer it follows that most of the
  kinds that separate blocks never have a block to separate.
Main exports: Tag.isPhrasing, Tag.isFlow, Tag.admits, Node.Conforms, fits_phrasesFrom, fits_blocks,
  PlainText.Separates, separates_iff, separates_between, conforms_treeOf
-/

namespace Unmark

/-! ### The content model -/

namespace Tag

/-- The kinds of phrases. -/
def isPhrasing : Tag → Bool
  | text | emphasis | strong | strikethrough | inlineCode | link | linkReference | image | imageReference
  | lineBreak | rawHtml | footnoteReference => true
  | _ => false

/-- The kinds of blocks in the flow of a document. -/
def isFlow : Tag → Bool
  | paragraph | heading | code | blockquote | list | listItem | thematicBreak | rawHtml | table
  | footnoteDefinition => true
  | _ => false

/-- Whether a node of the first kind may have a child of the second. -/
def admits : Tag → Tag → Bool
  | paragraph | heading | tableCell | emphasis | strong | strikethrough | link | linkReference => isPhrasing
  | table => (· == tableRow)
  | tableRow => (· == tableCell)
  | root | blockquote | list | listItem | footnoteDefinition => isFlow
  | _ => fun _ => false

theorem isBlockRuled_of_isPhrasing {t : Tag} (phrase : t.isPhrasing = true) : t.isBlockRuled = false := by
  cases t <;> first | rfl | cases phrase

/-- Of the kinds that separate their blocks, only these may have a block among their children. -/
theorem mem_of_admits_block {t u : Tag} (allowed : t.admits u = true) (separates : t.isBlockParent = true)
    (block : u.isBlockRuled = true) : t ∈ [root, blockquote, list, listItem] := by
  cases t
  case root | blockquote | list | listItem => decide
  case paragraph | heading => cases (isBlockRuled_of_isPhrasing allowed).symm.trans block
  case table | tableRow =>
    rw [eq_of_beq allowed] at block
    cases block
  case code | inlineCode | rawHtml | thematicBreak => cases allowed
  all_goals cases separates

end Tag

namespace Node

/-- Siblings are all of kinds that are allowed in their place. -/
def Siblings (allowed : Tag → Bool) (ns : List Node) : Prop :=
  ∀ n ∈ ns, ∃ t, n.kind = .tag t ∧ allowed t = true

/-- The children of a node are of kinds that its kind admits. -/
def Conforms (n : Node) : Prop := ∃ t, n.kind = .tag t ∧ Siblings t.admits n.children

/-- Siblings of allowed kinds, and every node in their trees conforms. -/
def Fit (allowed : Tag → Bool) (ns : List Node) : Prop := Siblings allowed ns ∧ EveryIn Conforms ns

section Fit

variable {allowed : Tag → Bool}

theorem fit_nil : Fit allowed [] := by
  refine ⟨?_, everyIn_nil⟩
  intro n mem
  cases mem

theorem fit_append {ns ms : List Node} : Fit allowed (ns ++ ms) ↔ Fit allowed ns ∧ Fit allowed ms := by
  simp only [Fit, Siblings, List.forall_mem_append, everyIn_append]
  exact and_and_and_comm

/-- A node of an allowed kind fits when its children fit its kind. -/
theorem fit_singleton {t : Tag} (own : allowed t = true) (payload : Payload) {cs : List Node}
    (children : Fit t.admits cs) : Fit allowed [Build.node t payload cs] := by
  refine ⟨?_, everyIn_cons.2 ⟨every_iff.2 ⟨⟨t, rfl, children.1⟩, children.2⟩, everyIn_nil⟩⟩
  intro n mem
  rw [List.mem_singleton.1 mem]
  exact ⟨t, rfl, own⟩

theorem fit_cons {t : Tag} (own : allowed t = true) (payload : Payload) {cs ns : List Node}
    (children : Fit t.admits cs) (rest : Fit allowed ns) :
    Fit allowed (Build.node t payload cs :: ns) :=
  fit_append.2 ⟨fit_singleton own payload children, rest⟩

end Fit

end Node

/-! ### Tokens become trees that conform -/

namespace Markdown

open Node

theorem fit_release (run : Option String) : Fit Tag.isPhrasing (release run) := by
  cases run with
  | none => exact fit_nil
  | some s => exact fit_singleton rfl _ fit_nil

/-- Inline tokens of any types become phrases. -/
theorem fit_phrasesFrom : ∀ (run : Option String) (ts : List Token),
    Fit Tag.isPhrasing (phrasesFrom run ts)
  | run, [] => by
      rw [phrasesFrom]
      exact fit_release run
  | run, .mk t raw attrs reference label cs :: ts => by
      have below := fit_phrasesFrom none cs
      have after := fun run' => fit_phrasesFrom run' ts
      -- A phrase behind the run in front of it, with phrases as its children or with none.
      have holding : ∀ tag payload, Tag.isPhrasing tag = true → tag.admits = Tag.isPhrasing →
          Fit Tag.isPhrasing
            (release run ++ Build.node tag payload (phrasesFrom none cs) :: phrasesFrom none ts) := by
        intro tag payload own admits
        exact fit_append.2 ⟨fit_release run, fit_cons own payload (admits ▸ below) (after none)⟩
      have leaf : ∀ tag payload, Tag.isPhrasing tag = true →
          Fit Tag.isPhrasing (release run ++ Build.node tag payload [] :: phrasesFrom none ts) := by
        intro tag payload own
        exact fit_append.2 ⟨fit_release run, fit_cons own payload fit_nil (after none)⟩
      cases t
      case strong | emphasis | strikethrough =>
        rw [phrasesFrom]
        exact holding _ _ rfl rfl
      case link =>
        cases reference <;> rw [phrasesFrom]
        · exact holding _ _ rfl rfl
        · exact holding _ _ rfl rfl
      case codeSpan | lineBreak | inlineHtml | footnoteRef =>
        rw [phrasesFrom]
        exact leaf _ _ rfl
      case image =>
        cases reference <;> rw [phrasesFrom]
        · exact leaf _ _ rfl
        · exact leaf _ _ rfl
      all_goals
        simp only [phrasesFrom]
        exact after _

theorem fit_phrases (ts : List Token) : Fit Tag.isPhrasing (phrases ts) := fit_phrasesFrom none ts

/-- What a table row keeps of its tokens are cells. -/
theorem fit_cells : ∀ ts : List Token, Fit (Tag.admits .tableRow) (cells ts)
  | [] => fit_nil
  | .mk t _ _ _ _ cs :: ts => by
      have after := fit_cells ts
      cases t
      case tableCell => exact fit_cons rfl _ (fit_phrases cs) after
      all_goals exact after

theorem fit_bodyRows : ∀ ts : List Token, Fit (Tag.admits .table) (bodyRows ts)
  | [] => fit_nil
  | .mk t _ _ _ _ cs :: ts => by
      have after := fit_bodyRows ts
      cases t
      case tableRow => exact fit_cons rfl _ (fit_cells cs) after
      all_goals exact after

/-- What a table keeps of its tokens are rows. -/
theorem fit_rows : ∀ ts : List Token, Fit (Tag.admits .table) (rows ts)
  | [] => fit_nil
  | .mk t _ _ _ _ cs :: ts => by
      have after := fit_rows ts
      cases t
      case tableHead => exact fit_cons rfl _ (fit_cells cs) after
      case tableBody => exact fit_append.2 ⟨fit_bodyRows cs, after⟩
      all_goals exact after

mutual

/-- Block tokens of any types become blocks. -/
theorem fit_blocks : ∀ ts : List Token, Fit Tag.isFlow (blocks ts)
  | [] => by
      rw [blocks]
      exact fit_nil
  | .mk t raw attrs reference label cs :: ts => by
      have after := fit_blocks ts
      cases t
      case paragraph | blockText | heading =>
        rw [blocks]
        exact fit_cons rfl _ (fit_phrases cs) after
      case blockQuote | list | listItem | taskListItem =>
        rw [blocks]
        exact fit_cons rfl _ (fit_blocks cs) after
      case blockCode | thematicBreak | blockHtml =>
        rw [blocks]
        exact fit_cons rfl _ fit_nil after
      case table =>
        rw [blocks]
        exact fit_cons rfl _ (fit_rows cs) after
      case footnotes =>
        rw [blocks]
        exact fit_append.2 ⟨fit_footnoteItems cs, after⟩
      all_goals simpa only [blocks, List.nil_append] using after

/-- What a footnote section keeps of its tokens are footnote definitions. -/
theorem fit_footnoteItems : ∀ ts : List Token, Fit Tag.isFlow (footnoteItems ts)
  | [] => by
      rw [footnoteItems]
      exact fit_nil
  | .mk t raw attrs reference label cs :: ts => by
      have after := fit_footnoteItems ts
      cases t
      case footnoteItem =>
        rw [footnoteItems]
        exact fit_cons rfl _ (fit_blocks cs) after
      all_goals simpa only [footnoteItems] using after

end

end Markdown

/-! ### Where separators are written -/

/-- An event stands between two siblings: the left one is left, or the right one is entered. -/
def Event.BetweenSiblings (e : Event) : Prop :=
  ∃ i left right, e.parent.children[i]? = some left ∧ e.parent.children[i + 1]? = some right ∧
    if e.entering then e.node = right ∧ e.index = i + 1 else e.node = left ∧ e.index = i

namespace PlainText

open Node

variable {o : Options}

/-- The renderer writes a separator on an event. -/
def Separates (o : Options) (e : Event) : Prop :=
  ∃ page fs, ((renderEvent o e).run.run page).2.written = fs ++ page.written ∧
    ∃ f ∈ fs, f.role = .separator

theorem separates_iff {e : Event} :
    Separates o e ↔ ∃ f ∈ (effect o e).written, f.role = .separator := by
  constructor
  · rintro ⟨page, fs, written, f, mem, role⟩
    rw [does_renderEvent o e page] at written
    have added : (effect o e).written.reverse = fs := List.append_cancel_right written
    exact ⟨f, List.mem_reverse.1 (added ▸ mem), role⟩
  · rintro ⟨f, mem, role⟩
    refine ⟨{}, (effect o e).written.reverse, ?_, f, List.mem_reverse.2 mem, role⟩
    rw [does_renderEvent o e {}]
    rfl

/-- A field is written in the role that is asked for. -/
theorem role_of_mem_fieldFragments {role : Role} {value : Option String} {f : Fragment}
    (mem : f ∈ fieldFragments role value) : f.role = role := by
  cases value with
  | none => cases mem
  | some s => rw [List.mem_singleton.1 mem]

/-- What is written around a link and around struck-out text are marks. -/
theorem role_of_mem_marks {e : Event}
    (kind : e.node.kind = .tag .link ∨ e.node.kind = .tag .strikethrough) :
    ∀ f ∈ (effect o e).written, f.role = .mark := by
  rcases kind with link | struck
  · cases entering : e.entering <;> cases url : e.node.payload.url <;> simp [effect, link, entering, url]
  · cases entering : e.entering <;> simp [effect, struck, entering]

/-- Only the events of a block have a separator, the one by which the block separates itself. -/
theorem separation_of_separates {e : Event} (separates : Separates o e) :
    e.node.kind.isBlockRuled = true ∧ separation o e ≠ [] := by
  obtain ⟨f, mem, role⟩ := separates_iff.1 separates
  obtain ⟨⟨k, p, md, cs⟩, parent, i, entering⟩ := e
  cases k with
  | foreign name fresh => cases entering <;> cases mem
  | tag t =>
      cases t
      case paragraph | heading | list | listItem | blockquote => exact ⟨rfl, List.ne_nil_of_mem mem⟩
      case code =>
        refine ⟨rfl, ?_⟩
        cases entering
        · exact List.ne_nil_of_mem mem
        · rcases List.mem_append.1 mem with separator | literal
          · exact List.ne_nil_of_mem separator
          · cases (role_of_mem_fieldFragments literal).symm.trans role
      case text | inlineCode =>
        cases entering
        · cases mem
        · cases (role_of_mem_fieldFragments mem).symm.trans role
      case link | strikethrough =>
        have marks := role_of_mem_marks (by simp) f mem
        cases marks.symm.trans role
      all_goals cases entering <;> cases mem

theorem separation_ne_nil_iff {e : Event} :
    separation o e ≠ [] ↔ e.parent.kind.isBlockParent = true ∧
      if e.entering then 0 < e.index ∧ previousIsBlock e.parent e.index = false
      else e.index + 1 < e.parent.children.length := by
  unfold separation
  cases e.entering <;> simp

/-- A separator is written between two siblings under a parent that separates its blocks. -/
theorem between_of_separates {e : Event} (place : e.parent.children[e.index]? = some e.node)
    (separates : Separates o e) : e.parent.kind.isBlockParent = true ∧ e.BetweenSiblings := by
  obtain ⟨separating, wanted⟩ := separation_ne_nil_iff.1 (separation_of_separates separates).2
  refine ⟨separating, ?_⟩
  obtain ⟨node, parent, index, entering⟩ := e
  cases entering with
  | true =>
      obtain ⟨positive, -⟩ := wanted
      obtain ⟨i, rfl⟩ := Nat.exists_eq_add_one.2 positive
      have inside : i + 1 < parent.children.length := (List.getElem?_eq_some_iff.1 place).1
      exact ⟨i, _, node, List.getElem?_eq_getElem (Nat.lt_of_succ_lt inside), place, rfl, rfl⟩
  | false => exact ⟨index, node, _, place, List.getElem?_eq_getElem wanted, rfl, rfl⟩

/-- Where every node below the root conforms, separators are written under the root and under quotes, lists
    and list items only. -/
theorem separates_under {tree : Node} (root : tree.kind = .tag .root)
    (conform : EveryIn Conforms tree.children) {e : Event} (mem : e ∈ tree.events)
    (separates : Separates o e) :
    e.parent.kind ∈ [.tag .root, .tag .blockquote, .tag .list, .tag .listItem] ∧ e.BetweenSiblings := by
  obtain ⟨under, place⟩ := place_of_mem_events tree mem
  obtain ⟨separating, between⟩ := between_of_separates place separates
  refine ⟨?_, between⟩
  rcases under with top | below
  · rw [top, root]
    exact List.mem_cons_self
  · obtain ⟨t, kind, siblings⟩ := everyIn_children_iff.1 conform e.parent below
    obtain ⟨u, child, allowed⟩ := siblings e.node (List.mem_of_getElem? place)
    have block := (separation_of_separates separates).1
    rw [kind] at separating
    rw [child] at block
    rw [kind]
    exact List.mem_map_of_mem (f := Kind.tag) (Tag.mem_of_admits_block allowed separating block)

end PlainText

namespace Markdown

open Node

/-- A document becomes a root with blocks, in front of which may stand the node of front matter and behind
    which may stand definitions. All nodes below the root have children of the kinds that their kind admits,
    whatever the tokens of the document are. Separators are written between siblings under the root, quotes,
    lists and list items only. -/
theorem conforms_treeOf (o : Options) (found : Option FrontMatter) (doc : Document) :
    let tree := doc.treeOf o found
    tree.kind = .tag .root ∧
    (∃ front defs, tree.children = front ++ blocks doc.tokens ++ defs ∧ front.length ≤ 1 ∧
      (∀ n ∈ front, n.kind = .tag .frontMatter) ∧ Siblings Tag.isFlow (blocks doc.tokens) ∧
      ∀ n ∈ defs, n.kind = .tag .definition) ∧
    EveryIn Conforms tree.children ∧
    ∀ (plain : PlainText.Options), ∀ e ∈ tree.events, PlainText.Separates plain e →
      e.parent.kind ∈ [.tag .root, .tag .blockquote, .tag .list, .tag .listItem] ∧ e.BetweenSiblings := by
  intro tree
  have flow := fit_blocks doc.tokens
  have leaf : ∀ t payload metadata, Conforms (.mk (.tag t) payload metadata []) :=
    fun t _ _ => ⟨t, rfl, fit_nil.1⟩
  have conform : EveryIn Conforms tree.children :=
    everyIn_treeOf_of_blocks flow.2 (fun _ _ _ => leaf _ _ _) (fun _ _ => leaf _ _ _)
  refine ⟨rfl, ⟨frontMatterNodes o found, definitionNodes o doc.env, rfl, length_frontMatterNodes_le o found,
    fun n => kind_of_mem_frontMatterNodes, flow.1, fun n => kind_of_mem_definitionNodes⟩, conform, ?_⟩
  intro plain e mem separates
  exact PlainText.separates_under rfl conform mem separates

end Markdown

end Unmark
