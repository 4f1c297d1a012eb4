import Unmark.Markdown.TokenTree
import Unmark.Proofs.EveryNode

/-
Module: Unmark.Proofs.TokenNodes
Layer: Proofs
Purpose: Which nodes tokens become. Apart from the text nodes of runs, every node of a tree comes from one
  token, and the token alone says what its kind and its payload are (`Token.made?`); what stands below the
  token decides about the children only. A fact about single nodes is therefore shown for trees by looking
  at single tokens (`everyIn_blocks`). The first such fact: tokens whose URLs are texts become printable
  nodes, whatever their types are, wherever they stand and whatever else is missing from them.
Main exports: Token.Every, Token.made?, Token.Makes, everyIn_blocks, everyIn_definitions, Token.UrlIsText,
  printable_blocks, kind_of_mem_blocks
-/

namespace Unmark.Markdown

open Node

namespace Token

/-- Every token of a list satisfies `Q`, and every token below one of them. -/
def Every (Q : Token → Prop) : List Token → Prop
  | [] => True
  | .mk t raw attrs reference label cs :: ts =>
    Q (.mk t raw attrs reference label cs) ∧ Every Q cs ∧ Every Q ts

section Every

variable {Q R : Token → Prop}

@[simp] theorem every_nil : Every Q [] := by
  rw [Every]
  trivial

@[simp] theorem every_cons {t : Token} {ts : List Token} :
    Every Q (t :: ts) ↔ Q t ∧ Every Q t.children ∧ Every Q ts := by
  obtain ⟨t, raw, attrs, reference, label, cs⟩ := t
  rw [Every]
  rfl

/-- The tokens of a list and below them are those of the first token and those of the others. -/
theorem every_cons_singleton {t : Token} {ts : List Token} :
    Every Q (t :: ts) ↔ Every Q [t] ∧ Every Q ts := by
  simp [and_assoc]

@[simp] theorem every_append {ts ts' : List Token} :
    Every Q (ts ++ ts') ↔ Every Q ts ∧ Every Q ts' := by
  induction ts with
  | nil => simp
  | cons t ts ih => simp [ih, and_assoc]

theorem every_iff_forall_mem {ts : List Token} : Every Q ts ↔ ∀ t ∈ ts, Every Q [t] := by
  induction ts with
  | nil => simp
  | cons t ts ih => simp [ih, and_assoc]

theorem every_of_forall (all : ∀ t, Q t) : ∀ ts : List Token, Every Q ts
  | [] => every_nil
  | .mk t raw attrs reference label cs :: ts => by
      rw [Every]
      exact ⟨all _, every_of_forall all cs, every_of_forall all ts⟩

/-- What every token satisfies can be weakened. -/
theorem Every.imp (weaker : ∀ t, Q t → R t) : ∀ ts : List Token, Every Q ts → Every R ts
  | [], _ => every_nil
  | .mk t raw attrs reference label cs :: ts, every => by
      rw [Every] at every ⊢
      exact ⟨weaker _ every.1, Every.imp weaker cs every.2.1, Every.imp weaker ts every.2.2⟩

end Every

/-- The tag and the payload of the node that a token becomes by itself, where its type has a place. A text
    and a soft line break become part of a run instead. -/
def made? : Token → Option (Tag × Payload)
  | .mk t raw attrs reference label cs =>
    match t with
    | .paragraph | .blockText => some (.paragraph, {})
    | .heading => some (.heading, { depth := depthOf attrs })
    | .blockCode =>
      some (.code, { value := some (String.ofList (Markdown.codeText (raw.getD "").toList)),
                     lang := languageOf attrs })
    | .blockQuote => some (.blockquote, {})
    | .list =>
      some (.list, { ordered := some (numberingOf attrs).1, start := (numberingOf attrs).2 })
    | .listItem => some (.listItem, {})
    | .taskListItem => some (.listItem, { checked := checkedOf attrs })
    | .thematicBreak => some (.thematicBreak, {})
    | .blockHtml | .inlineHtml => some (.rawHtml, { value := some (raw.getD "") })
    | .table => some (.table, {})
    | .tableHead | .tableRow => some (.tableRow, {})
    | .tableCell => some (.tableCell, {})
    | .footnoteItem => some (.footnoteDefinition, { identifier := some (footnoteName attrs) })
    | .strong => some (.strong, {})
    | .emphasis => some (.emphasis, {})
    | .strikethrough => some (.strikethrough, {})
    | .codeSpan => some (.inlineCode, { value := some (raw.getD "") })
    | .link =>
      match reference with
      | some r => some (.linkReference, { identifier := some (referenceName r label) })
      | none =>
        some (.link, { url := urlOf (attrs.get? "url"), title := decodeTitle (attrs.get? "title") })
    | .image =>
      match reference with
      | some r =>
        some (.imageReference,
          { identifier := some (referenceName r label), alt := some (flatten cs) })
      | none =>
        some (.image, { url := urlOf (attrs.get? "url"), alt := some (flatten cs),
                        title := decodeTitle (attrs.get? "title") })
    | .lineBreak => some (.lineBreak, {})
    | .footnoteRef =>
      some (.footnoteReference, { identifier := some (footnoteReferenceName raw attrs) })
    | .text | .softBreak | .tableBody | .footnotes | .blankLine | .other _ => none

/-- The node that a token becomes satisfies `P`, whatever its children are. -/
def Makes (P : Node → Prop) (t : Token) : Prop :=
  ∀ tag payload, t.made? = some (tag, payload) → ∀ cs, P (Build.node tag payload cs)

end Token

section EveryNode

variable {P : Node → Prop}

theorem everyIn_release (runs : ∀ s, P (Build.text s)) (run : Option String) : EveryIn P (release run) := by
  cases run with
  | none => exact everyIn_nil
  | some s =>
      rw [release, everyIn_cons, every_iff]
      exact ⟨⟨runs s, everyIn_nil⟩, everyIn_nil⟩

/-- The nodes of inline tokens satisfy what the text nodes of runs and the nodes of single tokens do. -/
theorem everyIn_phrasesFrom (runs : ∀ s, P (Build.text s)) : ∀ (run : Option String) (ts : List Token),
    Token.Every (Token.Makes P) ts → EveryIn P (phrasesFrom run ts)
  | run, [], _ => by
      rw [phrasesFrom]
      exact everyIn_release runs run
  | run, .mk t raw attrs reference label cs :: ts, every => by
      rw [Token.Every] at every
      obtain ⟨own, inner, rest⟩ := every
      have below := everyIn_phrasesFrom runs none cs inner
      have after := fun run' => everyIn_phrasesFrom runs run' ts rest
      have front := everyIn_release runs run
      -- The node of this token, behind the run in front of it and before all that follows.
      have placed : ∀ tag payload, Token.made? (.mk t raw attrs reference label cs) = some (tag, payload) →
          ∀ ns, EveryIn P ns →
            EveryIn P (release run ++ Build.node tag payload ns :: phrasesFrom none ts) := by
        intro tag payload makes ns children
        rw [everyIn_append, everyIn_cons, every_iff]
        exact ⟨front, ⟨own tag payload makes ns, children⟩, after none⟩
      cases t
      case strong | emphasis | strikethrough =>
        rw [phrasesFrom]
        exact placed _ _ rfl _ below
      case codeSpan | lineBreak | inlineHtml | footnoteRef =>
        rw [phrasesFrom]
        exact placed _ _ rfl _ everyIn_nil
      case link =>
        cases reference <;> rw [phrasesFrom]
        · exact placed _ _ rfl _ below
        · exact placed _ _ rfl _ below
      case image =>
        cases reference <;> rw [phrasesFrom]
        · exact placed _ _ rfl _ everyIn_nil
        · exact placed _ _ rfl _ everyIn_nil
      all_goals
        simp only [phrasesFrom]
        exact after _

theorem everyIn_phrases (runs : ∀ s, P (Build.text s)) {ts : List Token}
    (every : Token.Every (Token.Makes P) ts) :
    EveryIn P (phrases ts) :=
  everyIn_phrasesFrom runs none ts every

theorem everyIn_cells (runs : ∀ s, P (Build.text s)) :
    ∀ ts : List Token, Token.Every (Token.Makes P) ts → EveryIn P (cells ts)
  | [], _ => everyIn_nil
  | .mk t raw attrs reference label cs :: ts, every => by
      rw [Token.Every] at every
      obtain ⟨own, inner, rest⟩ := every
      have after := everyIn_cells runs ts rest
      cases t
      case tableCell =>
        rw [cells, everyIn_cons, every_iff]
        exact ⟨⟨own _ _ rfl _, everyIn_phrases runs inner⟩, after⟩
      all_goals exact after

theorem everyIn_bodyRows (runs : ∀ s, P (Build.text s)) :
    ∀ ts : List Token, Token.Every (Token.Makes P) ts → EveryIn P (bodyRows ts)
  | [], _ => everyIn_nil
  | .mk t raw attrs reference label cs :: ts, every => by
      rw [Token.Every] at every
      obtain ⟨own, inner, rest⟩ := every
      have after := everyIn_bodyRows runs ts rest
      cases t
      case tableRow =>
        rw [bodyRows, everyIn_cons, every_iff]
        exact ⟨⟨own _ _ rfl _, everyIn_cells runs cs inner⟩, after⟩
      all_goals exact after

theorem everyIn_rows (runs : ∀ s, P (Build.text s)) :
    ∀ ts : List Token, Token.Every (Token.Makes P) ts → EveryIn P (rows ts)
  | [], _ => everyIn_nil
  | .mk t raw attrs reference label cs :: ts, every => by
      rw [Token.Every] at every
      obtain ⟨own, inner, rest⟩ := every
      have after := everyIn_rows runs ts rest
      cases t
      case tableHead =>
        rw [rows, everyIn_cons, every_iff]
        exact ⟨⟨own _ _ rfl _, everyIn_cells runs cs inner⟩, after⟩
      case tableBody =>
        rw [rows, everyIn_append]
        exact ⟨everyIn_bodyRows runs cs inner, after⟩
      all_goals exact after

mutual

/-- The nodes of block tokens satisfy what the text nodes of runs and the nodes of single tokens do. -/
theorem everyIn_blocks (runs : ∀ s, P (Build.text s)) :
    ∀ ts : List Token, Token.Every (Token.Makes P) ts → EveryIn P (blocks ts)
  | [], _ => by
      rw [blocks]
      exact everyIn_nil
  | .mk t raw attrs reference label cs :: ts, every => by
      rw [Token.Every] at every
      obtain ⟨own, inner, rest⟩ := every
      have after := everyIn_blocks runs ts rest
      have placed : ∀ tag payload, Token.made? (.mk t raw attrs reference label cs) = some (tag, payload) →
          ∀ ns, EveryIn P ns → EveryIn P ([Build.node tag payload ns] ++ blocks ts) := by
        intro tag payload makes ns children
        rw [everyIn_append, everyIn_cons, every_iff]
        exact ⟨⟨⟨own tag payload makes ns, children⟩, everyIn_nil⟩, after⟩
      cases t
      case paragraph | blockText | heading =>
        rw [blocks]
        exact placed _ _ rfl _ (everyIn_phrases runs inner)
      case blockQuote | list | listItem | taskListItem =>
        rw [blocks]
        exact placed _ _ rfl _ (everyIn_blocks runs cs inner)
      case blockCode | thematicBreak | blockHtml =>
        rw [blocks]
        exact placed _ _ rfl _ everyIn_nil
      case table =>
        rw [blocks]
        exact placed _ _ rfl _ (everyIn_rows runs cs inner)
      case footnotes =>
        rw [blocks, everyIn_append]
        exact ⟨everyIn_footnoteItems runs cs inner, after⟩
      all_goals simpa only [blocks, List.nil_append] using after

/-- The same for the definitions of a footnote section. -/
theorem everyIn_footnoteItems (runs : ∀ s, P (Build.text s)) :
    ∀ ts : List Token, Token.Every (Token.Makes P) ts → EveryIn P (footnoteItems ts)
  | [], _ => by
      rw [footnoteItems]
      exact everyIn_nil
  | .mk t raw attrs reference label cs :: ts, every => by
      rw [Token.Every] at every
      obtain ⟨own, inner, rest⟩ := every
      have after := everyIn_footnoteItems runs ts rest
      cases t
      case footnoteItem =>
        rw [footnoteItems, everyIn_cons, every_iff]
        exact ⟨⟨own _ _ rfl _, everyIn_blocks runs cs inner⟩, after⟩
      all_goals simpa [footnoteItems] using after

end

end EveryNode

/-- The nodes of link reference definitions have no children. -/
theorem everyIn_definitions {P : Node → Prop} (definition : ∀ name url title,
    P (Build.definition name url title)) (links : List (String × Definition)) :
    EveryIn P (definitions links) := by
  rw [everyIn_iff_forall_mem]
  intro n mem
  obtain ⟨⟨key, d⟩, _, rfl⟩ := List.mem_map.1 mem
  rw [every_iff]
  exact ⟨definition _ _ _, everyIn_nil⟩

/-! ### Printable nodes -/

/-- A URL attribute is a text, where there is one. -/
def Token.UrlIsText (t : Token) : Prop := ∀ d, t.attrs.get? "url" = some d → ∃ s, d = .str s

theorem urlOf_ne_none {url : Option Data} (fine : ∀ d, url = some d → ∃ s, d = .str s) :
    urlOf url ≠ none := by
  cases url with
  | none => simp [urlOf]
  | some d =>
      obtain ⟨s, rfl⟩ := fine d rfl
      simp [urlOf]

theorem printable_text (s : String) : PlainText.Printable (Build.text s) :=
  ⟨rfl, Option.some_ne_none s⟩

/-- Whatever its type is, a token becomes a printable node by itself, if its URL is a text. -/
theorem Token.UrlIsText.makes {t : Token} (fine : t.UrlIsText) : t.Makes PlainText.Printable := by
  intro tag payload made cs
  refine ⟨rfl, ?_⟩
  obtain ⟨t, raw, attrs, reference, label, children⟩ := t
  have url : urlOf (attrs.get? "url") ≠ none := urlOf_ne_none fine
  cases t
  case link =>
    cases reference with
    | none =>
        cases made
        exact url
    | some r =>
        cases made
        trivial
  case blockCode | codeSpan =>
    cases made
    exact Option.some_ne_none _
  case image => cases reference <;> cases made <;> trivial
  all_goals cases made <;> trivial

/-- Block tokens become printable nodes, whatever their types are and whatever is missing from them. -/
theorem printable_blocks {ts : List Token} (fine : Token.Every Token.UrlIsText ts) :
    EveryIn PlainText.Printable (blocks ts) := by
  exact everyIn_blocks printable_text ts (Token.Every.imp (fun _ => Token.UrlIsText.makes) ts fine)

/-- So do link reference definitions. -/
theorem printable_definitions (links : List (String × Definition)) :
    EveryIn PlainText.Printable (definitions links) :=
  everyIn_definitions (fun _ _ _ => ⟨rfl, trivial⟩) links

/-- Definitions and front matter are no token's nodes. -/
theorem kind_of_mem_blocks (ts : List Token) :
    ∀ n ∈ blocks ts, n.kind ≠ .tag .definition ∧ n.kind ≠ .tag .frontMatter := by
  have makes : ∀ t : Token, t.Makes fun n => n.kind ≠ .tag .definition ∧ n.kind ≠ .tag .frontMatter := by
    intro t tag payload made cs
    obtain ⟨t, raw, attrs, reference, label, children⟩ := t
    cases t
    case link | image => cases reference <;> cases made <;> constructor <;> intro kind <;> cases kind
    all_goals cases made <;> constructor <;> intro kind <;> cases kind
  have runs : ∀ s, (Build.text s).kind ≠ .tag .definition ∧ (Build.text s).kind ≠ .tag .frontMatter := by
    intro s
    constructor <;> intro kind <;> cases kind
  have other := everyIn_blocks runs ts (Token.every_of_forall makes ts)
  intro n mem
  exact (every_iff.1 (everyIn_iff_forall_mem.1 other n mem)).1

end Unmark.Markdown
