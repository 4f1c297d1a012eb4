import Unmark.Markdown.Document
import Unmark.Proofs.DocumentTokens

/-
Module: Unmark.Proofs.ParsedTree
Layer: Proofs
Purpose: The tree of a Markdown text: front matter, then the nodes of the tokens, then the definitions. All its
  nodes are printable, because the grammar gives texts as URLs and tokens become printable nodes whatever
  else is the case with them. So the rendering half of a conversion cannot fail, and it notes no kind.
Main exports: Document.treeOf, parse_eq_ok_iff, everyIn_treeOf, render_of_blocks_or_parse
-/

namespace Unmark.Markdown

open Node

/-- The tree of front matter and of a document. -/
def Document.treeOf (o : Options) (found : Option FrontMatter) (doc : Document) : Node :=
  Build.root (frontMatterNodes o found ++ blocks doc.tokens ++ definitionNodes o doc.env)
    (rootMetadata found)

/-- A text is parsed exactly when its front matter can be taken off, into the tree of what it holds. -/
theorem parse_eq_ok_iff {o : Options} {text : String} {p : Parsed} :
    parse o text = .ok p ↔
      ∃ e, withoutFrontMatter o text.toList = .ok e ∧
        p = ⟨(tokenize o e.rest).treeOf o e.found, e.log ++ blockDrops (tokenize o e.rest).tokens⟩ := by
  unfold parse
  cases withoutFrontMatter o text.toList with
  | error f =>
      constructor
      · intro failed
        cases failed
      · rintro ⟨e, absurd_ok, -⟩
        cases absurd_ok
  | ok e =>
      constructor
      · intro done
        cases done
        exact ⟨e, rfl, rfl⟩
      · rintro ⟨e', same, rfl⟩
        cases same
        rfl

/-- Front matter leaves one node or none, and that node is its own. -/
theorem eq_frontMatter_of_mem {o : Options} {found : Option FrontMatter} {n : Node}
    (mem : n ∈ frontMatterNodes o found) : ∃ f ∈ found, n = Build.frontMatter f.raw f.data := by
  unfold frontMatterNodes at mem
  split at mem
  · split at mem
    · exact ⟨_, rfl, List.mem_singleton.1 mem⟩
    · cases mem
  · cases mem

theorem length_frontMatterNodes_le (o : Options) (found : Option FrontMatter) :
    (frontMatterNodes o found).length ≤ 1 := by
  unfold frontMatterNodes
  split
  · split <;> simp
  · simp

/-- The nodes of definitions are made of names, URLs and titles. -/
theorem eq_definition_of_mem {o : Options} {env : Environment} {n : Node}
    (mem : n ∈ definitionNodes o env) : ∃ name url title, n = Build.definition name url title := by
  unfold definitionNodes at mem
  split at mem
  · obtain ⟨⟨key, d⟩, -, rfl⟩ := List.mem_map.1 mem
    exact ⟨_, _, _, rfl⟩
  · cases mem

theorem kind_of_mem_frontMatterNodes {o : Options} {found : Option FrontMatter} {n : Node}
    (mem : n ∈ frontMatterNodes o found) : n.kind = .tag .frontMatter := by
  obtain ⟨f, -, rfl⟩ := eq_frontMatter_of_mem mem
  rfl

theorem kind_of_mem_definitionNodes {o : Options} {env : Environment} {n : Node}
    (mem : n ∈ definitionNodes o env) : n.kind = .tag .definition := by
  obtain ⟨name, url, title, rfl⟩ := eq_definition_of_mem mem
  rfl

/-- Whatever holds of the nodes of its blocks, of definitions and of front matter holds of the nodes of a
    document. -/
theorem everyIn_treeOf_of_blocks {P : Node → Prop} {o : Options} {found : Option FrontMatter} {doc : Document}
    (tokens : EveryIn P (blocks doc.tokens))
    (definition : ∀ name url title, P (Build.definition name url title))
    (frontMatter : ∀ f ∈ found, P (Build.frontMatter f.raw f.data)) :
    EveryIn P (doc.treeOf o found).children := by
  rw [Document.treeOf, Build.root, children_mk, everyIn_append, everyIn_append]
  refine ⟨⟨everyIn_iff_forall_mem.2 ?_, tokens⟩, everyIn_iff_forall_mem.2 ?_⟩
  · intro n mem
    obtain ⟨f, here, rfl⟩ := eq_frontMatter_of_mem mem
    exact every_iff.2 ⟨frontMatter f here, everyIn_nil⟩
  · intro n mem
    obtain ⟨name, url, title, rfl⟩ := eq_definition_of_mem mem
    exact every_iff.2 ⟨definition name url title, everyIn_nil⟩

/-- Whatever holds of the nodes of sound tokens, of definitions and of front matter holds of the nodes of a
    document. -/
theorem everyIn_treeOf {P : Node → Prop} {o : Options} {found : Option FrontMatter} {doc : Document}
    (tokens : Token.AllSound doc.env.links doc.tokens) (runs : ∀ s, P (Build.text s))
    (makes : ∀ t : Token, t.Sound doc.env.links → t.Makes P)
    (definition : ∀ name url title, P (Build.definition name url title))
    (frontMatter : ∀ f ∈ found, P (Build.frontMatter f.raw f.data)) :
    EveryIn P (doc.treeOf o found).children :=
  everyIn_treeOf_of_blocks (everyIn_blocks runs _ (Token.Every.imp makes _ tokens)) definition frontMatter

/-- Every node of a parsed tree is printable. -/
theorem printable_parsed {o : Options} {text : String} {p : Parsed} (parsed : parse o text = .ok p) :
    EveryIn PlainText.Printable p.tree.children := by
  obtain ⟨e, -, rfl⟩ := parse_eq_ok_iff.1 parsed
  refine everyIn_treeOf (sound_tokenize o e.rest).2 printable_text ?_ ?_ ?_
  · exact fun t sound => sound.url.makes
  · exact fun _ _ _ => ⟨rfl, trivial⟩
  · exact fun _ _ => ⟨rfl, trivial⟩

open PlainText in
/-- Block tokens of any types with URLs that are texts, with definitions behind them, are rendered to the
    end without a record. So is every document that can be parsed. -/
theorem render_of_blocks_or_parse (o : PlainText.Options) :
    (∀ (ts : List Token) (links : List (String × Definition)) (metadata : Fields),
      Token.Every Token.UrlIsText ts →
      let rendering := render o (Build.root (blocks ts ++ definitions links) metadata)
      (∃ text, rendering.text = .ok text) ∧ rendering.log = []) ∧
    ∀ (markdown : Options) (source : String) (p : Parsed), parse markdown source = .ok p →
      (∃ text, (render o p.tree).text = .ok text) ∧ (render o p.tree).log = [] := by
  constructor
  · intro ts links metadata urls
    apply render_of_printable
    exact everyIn_append.2 ⟨printable_blocks urls, printable_definitions links⟩
  · intro markdown source p parsed
    apply render_of_printable
    exact printable_parsed parsed

open PlainText in
/-- A link without attributes, one by a label, an image within an unknown token, and a document. -/
theorem render_bare_links :
    (let ts : List Token :=
      [.parent .paragraph [.mk .link none [] none none [.leaf .text "a"],
        .mk .link none [] (some (.str "B")) none [.parent .text []],
        .parent (.other "mark") [.mk .image none [("url", .str "/c")] none none []]]]
      let rendering := render {} (Build.root (blocks ts ++ definitions [("B", ⟨none, none, none⟩)]) [])
      (∃ text, rendering.text = .ok text) ∧ rendering.log = []) ∧
    ∃ p, parse { frontMatter := false } "~~[a](/b)~~" = .ok p ∧
      (∃ text, (render {} p.tree).text = .ok text) ∧ (render {} p.tree).log = [] := by
  constructor
  · apply (render_of_blocks_or_parse {}).1
    simp [Token.parent, Token.leaf, Token.UrlIsText, Fields.get?, Token.attrs, Token.children]
  · obtain ⟨p, parsed⟩ : ∃ p, parse { frontMatter := false } "~~[a](/b)~~" = .ok p := ⟨_, rfl⟩
    exact ⟨p, parsed, (render_of_blocks_or_parse {}).2 _ _ p parsed⟩

end Unmark.Markdown
