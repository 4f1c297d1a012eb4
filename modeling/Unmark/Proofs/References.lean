import Unmark.Proofs.LabelNames
import Unmark.Proofs.NamedValues
import Unmark.Proofs.ParsedTree

/-
Module: Unmark.Proofs.References
Layer: Proofs
Purpose: References and the definitions they meet. The grammar resolves a reference by the key of its label and
  stores each definition under the key of its own; the tree names both by their labels in lower case. So a
  reference meets exactly one definition when names are compared in upper case. As they stand the two names
  may differ, unless they are of ASCII characters. But where they are equal the definition is the one that the
  grammar meant: names tell apart what keys tell apart.
Main exports: Token.Resolved, MeetsOne, reference_meets_one_definition, definitions_named_apart
-/

namespace Unmark.Markdown

open Node

/-! ### References and definitions -/

/-- A token that is a reference has been resolved: by the key of its label, which is one of the document. -/
def Token.Resolved (links : List (String × Definition)) (t : Token) : Prop :=
  t.type = .link ∨ t.type = .image → ∀ r, t.reference = some r → ∃ label, t.label = some (.str label) ∧
    r = .str (labelKey label) ∧ labelKey label ∈ links.map Prod.fst

/-- Whether a node refers to a definition. -/
def IsReference (n : Node) : Prop := n.kind = .tag .linkReference ∨ n.kind = .tag .imageReference

/-- Whether the identifiers of two nodes are equal in upper case. -/
def SameName (n d : Node) : Bool :=
  n.payload.identifier.map Text.upperString == d.payload.identifier.map Text.upperString

/-- Whether two nodes have one identifier. -/
def SameIdentifier (n d : Node) : Bool := n.payload.identifier == d.payload.identifier

/-- A reference has the name of exactly one definition, in upper case. The two names are equal if they are
    of ASCII characters; when they are, this definition is the only one with the identifier of the
    reference, and when they are not, there is none. -/
def MeetsOne (ds : List Node) (n : Node) : Prop :=
  IsReference n → ∃ name name' d, n.payload.identifier = some name ∧ d.payload.identifier = some name' ∧
    ds.filter (SameName n) = [d] ∧ ds.filter (SameIdentifier n) = (if name = name' then [d] else []) ∧
      (IsAscii name → IsAscii name' → name = name')

/-- A node that refers by the name of a known label. -/
def Refers (links : List (String × Definition)) (n : Node) : Prop :=
  IsReference n → ∃ label, n.payload.identifier = some (labelName label) ∧
    labelKey label ∈ links.map Prod.fst

theorem Token.Resolved.makes {links : List (String × Definition)} {t : Token} (resolved : t.Resolved links) :
    t.Makes (Refers links) := by
  intro tag payload made cs is_reference
  obtain ⟨t, raw, attrs, reference, label, children⟩ := t
  cases t
  case link =>
    cases reference with
    | none =>
        cases made
        rcases is_reference with kind | kind <;> cases kind
    | some r =>
        cases made
        obtain ⟨l, rfl, _, known⟩ := resolved (.inl rfl) r rfl
        exact ⟨l, rfl, known⟩
  case image =>
    cases reference with
    | none =>
        cases made
        rcases is_reference with kind | kind <;> cases kind
    | some r =>
        cases made
        obtain ⟨l, rfl, _, known⟩ := resolved (.inr rfl) r rfl
        exact ⟨l, rfl, known⟩
  all_goals
    cases made <;> rcases is_reference with kind | kind <;> cases kind

/-- A definition with a label is named by it. -/
theorem Definition.node_of_label {key label : String} {d : Definition} (has_label : d.label = some label) :
    d.node key = Build.definition (labelName label) (urlOf d.url) (decodeTitle d.title) := by
  rw [Definition.node, has_label]

/-- The identifier of a definition that is stored under the key of its label has this key in upper case. -/
theorem identifier_of_stored {e : String × Definition}
    (stored : ∃ label, e.2.label = some label ∧ labelKey label = e.1) :
    ∃ label, e.2.label = some label ∧ (e.2.node e.1).payload.identifier = some (labelName label) ∧
      Text.upperString (labelName label) = e.1 := by
  obtain ⟨label, has_label, key⟩ := stored
  refine ⟨label, has_label, ?_, ?_⟩
  · rw [Definition.node_of_label has_label]
    rfl
  · rw [upperString_labelName, key]

/-- A key that stands among distinct ones stands there once. -/
theorem filter_key_eq_singleton {key : String} : ∀ {links : List (String × Definition)},
    (links.map Prod.fst).Nodup → key ∈ links.map Prod.fst →
      ∃ e ∈ links, e.1 = key ∧ links.filter (fun e => e.1 == key) = [e]
  | [], _, known => by cases known
  | e :: links, distinct, known => by
      rw [List.map_cons, List.nodup_cons] at distinct
      rw [List.map_cons, List.mem_cons] at known
      rcases known with rfl | known
      · refine ⟨e, List.mem_cons_self, rfl, ?_⟩
        rw [List.filter_cons, if_pos (beq_self_eq_true e.1), List.filter_eq_nil_iff.2]
        intro e' mem same
        exact distinct.1 (List.mem_map.2 ⟨e', mem, eq_of_beq same⟩)
      · obtain ⟨found, mem, key_eq, alone⟩ := filter_key_eq_singleton distinct.2 known
        refine ⟨found, List.mem_cons_of_mem e mem, key_eq, ?_⟩
        have other : ¬ (e.1 == key) = true := by
          intro same
          exact distinct.1 (eq_of_beq same ▸ known)
        rw [List.filter_cons, if_neg other, alone]

/-- Definitions with the identifier of a node are among those with its name in upper case. -/
theorem filter_sameIdentifier (ds : List Node) (n : Node) :
    ds.filter (SameIdentifier n) = (ds.filter (SameName n)).filter (SameIdentifier n) := by
  rw [List.filter_filter]
  refine List.filter_congr fun d _ => ?_
  cases same : SameIdentifier n d with
  | false => rfl
  | true =>
      have identifier : n.payload.identifier = d.payload.identifier := eq_of_beq same
      simp [SameName, identifier]

/-- Among definitions that are stored under the keys of their labels, no key twice, exactly one has the
    name of a known label. -/
theorem meetsOne_of_refers {links : List (String × Definition)}
    (stored : ∀ e ∈ links, ∃ label, e.2.label = some label ∧ labelKey label = e.1)
    (distinct : (links.map Prod.fst).Nodup) {n : Node} (refers : Refers links n) :
    MeetsOne (definitions links) n := by
  intro is_reference
  obtain ⟨label, identifier, known⟩ := refers is_reference
  -- A definition has the name of the reference exactly when it is stored under its key.
  have same : ∀ e ∈ links, SameName n (e.2.node e.1) = (e.1 == labelKey label) := by
    intro e mem
    obtain ⟨label', -, name, key⟩ := identifier_of_stored (stored e mem)
    rw [SameName, identifier, name, Option.map_some, Option.map_some, upperString_labelName, key,
      Option.some_beq_some]
    exact Bool.beq_comm ..
  obtain ⟨e, mem, key, alone⟩ := filter_key_eq_singleton distinct known
  obtain ⟨label', -, name', key'⟩ := identifier_of_stored (stored e mem)
  have met : (definitions links).filter (SameName n) = [e.2.node e.1] := by
    have kept : links.filter (SameName n ∘ fun e => e.2.node e.1) = [e] := by
      rw [← alone]
      exact List.filter_congr same
    rw [show definitions links = links.map fun e => e.2.node e.1 from rfl, List.filter_map, kept]
    rfl
  refine ⟨labelName label, labelName label', e.2.node e.1, identifier, name', met, ?_, ?_⟩
  · rw [filter_sameIdentifier, met]
    by_cases equal : labelName label = labelName label'
    · simp [SameIdentifier, identifier, name', equal]
    · simp [SameIdentifier, identifier, name', equal]
  · intro ascii ascii'
    rw [upperString_labelName] at key'
    exact labelName_eq_of_labelKey_eq (key.symm.trans key'.symm) ascii ascii'

/-! ### Trees -/

/-- The definitions that stand right below the root of a tree. -/
def definitionsOf (tree : Node) : List Node := tree.children.filter fun n => n.kind = .tag .definition

/-- The definitions below the root of a document are those that the grammar has collected. -/
theorem definitionsOf_treeOf {o : Options} (emits : o.definitionNodes = true) (found : Option FrontMatter)
    (doc : Document) : definitionsOf (doc.treeOf o found) = definitions doc.env.links := by
  have front : (frontMatterNodes o found).filter (fun n => n.kind = .tag .definition) = [] := by
    rw [List.filter_eq_nil_iff]
    intro n mem
    rw [kind_of_mem_frontMatterNodes mem]
    decide
  have tokens : (blocks doc.tokens).filter (fun n => n.kind = .tag .definition) = [] := by
    rw [List.filter_eq_nil_iff]
    intro n mem
    simpa using (kind_of_mem_blocks doc.tokens n mem).1
  have all : (definitions doc.env.links).filter (fun n => n.kind = .tag .definition) =
      definitions doc.env.links := by
    rw [List.filter_eq_self]
    intro n mem
    obtain ⟨e, _, rfl⟩ := List.mem_map.1 mem
    rfl
  rw [definitionsOf, Document.treeOf, Build.root, children_mk, List.filter_append, List.filter_append,
    front, tokens, definitionNodes, if_pos emits, all]
  rfl

/-- Every reference below tokens that have been resolved meets exactly one definition, where each definition
    is stored under the key of its label and no key twice. So does every reference in the tree of a text,
    if definitions leave nodes behind. -/
theorem reference_meets_one_definition (o : Options) (emits : o.definitionNodes = true) :
    (∀ (ts : List Token) (links : List (String × Definition)), Token.Every (Token.Resolved links) ts →
      (∀ e ∈ links, ∃ label, e.2.label = some label ∧ labelKey label = e.1) →
      (links.map Prod.fst).Nodup → EveryIn (MeetsOne (definitions links)) (blocks ts)) ∧
    ∀ (text : String) (p : Parsed), parse o text = .ok p →
      EveryIn (MeetsOne (definitionsOf p.tree)) p.tree.children := by
  have runs : ∀ links s, Refers links (Build.text s) := by
    intro links s is_reference
    rcases is_reference with kind | kind <;> cases kind
  constructor
  · intro ts links resolved stored distinct
    have refers := everyIn_blocks (runs links) ts (Token.Every.imp (fun _ => Token.Resolved.makes) ts resolved)
    exact EveryIn.imp (fun _ => meetsOne_of_refers stored distinct) _ refers
  · intro text p parsed
    obtain ⟨e, -, rfl⟩ := parse_eq_ok_iff.1 parsed
    obtain ⟨env, tokens⟩ := sound_tokenize o e.rest
    rw [definitionsOf_treeOf emits]
    have refers : EveryIn (Refers (tokenize o e.rest).env.links)
        ((tokenize o e.rest).treeOf o e.found).children := by
      refine everyIn_treeOf tokens (runs _) ?_ ?_ ?_
      · exact fun t sound => Token.Resolved.makes fun _ => sound.reference
      · rintro name url title (kind | kind) <;> cases kind
      · rintro f - (kind | kind) <;> cases kind
    exact EveryIn.imp (fun _ => meetsOne_of_refers (fun e mem => (env.stored e mem).label) env.distinct) _
      refers

/-- A label with a sharp s meets the definition of a label with two of the letter. -/
theorem sharp_s_meets_one_definition :
    EveryIn (MeetsOne (definitions [("SS", ⟨some "ss", some (.str "/u"), none⟩)]))
      (blocks [.parent .paragraph
        [.mk .link none [] (some (.str "SS")) (some (.str "ß")) [.leaf .text "ß"]]]) ∧
    ∃ p, parse { frontMatter := false, definitionNodes := true } "[ß]\n\n[ss]: /u\n" = .ok p ∧
      EveryIn (MeetsOne (definitionsOf p.tree)) p.tree.children := by
  have key : labelKey "ß" = "SS" := by cbv
  have key' : labelKey "ss" = "SS" := by cbv
  have meets := reference_meets_one_definition { frontMatter := false, definitionNodes := true } rfl
  constructor
  · apply meets.1
    · simp [Token.parent, Token.leaf, Token.Resolved, Token.reference, Token.label, Token.type,
        Token.children, key]
    · simp [key']
    · simp
  · obtain ⟨p, parsed⟩ :
        ∃ p, parse { frontMatter := false, definitionNodes := true } "[ß]\n\n[ss]: /u\n" = .ok p := ⟨_, rfl⟩
    exact ⟨p, parsed, meets.2 _ p parsed⟩

/-- The two have different names in the tree. -/
theorem sharp_s_names_no_definition :
    ∃ p, parse { frontMatter := false, definitionNodes := true } "[ß]\n\n[ss]: /u\n" = .ok p ∧
      ¬ EveryIn (fun n => IsReference n →
        ∃ d ∈ definitionsOf p.tree, d.payload.identifier = n.payload.identifier) p.tree.children := by
  obtain ⟨doc, tokenized, nodes, names⟩ : ∃ doc,
      tokenize { frontMatter := false, definitionNodes := true } "[ß]\n\n[ss]: /u\n".toList = doc ∧
      (blocks doc.tokens).flatMap (fun n => n.children.map fun m => (m.kind, m.payload.identifier)) =
        [(.tag .linkReference, some "ß")] ∧
      (definitions doc.env.links).map (fun d => d.payload.identifier) = [some "ss"] := by
    refine ⟨_, rfl, ?_, ?_⟩
    · cbv
    · cbv
  refine ⟨⟨doc.treeOf { frontMatter := false, definitionNodes := true } none, blockDrops doc.tokens⟩, ?_, ?_⟩
  · rw [← tokenized]
    rfl
  · intro every
    rw [definitionsOf_treeOf rfl, Document.treeOf, Build.root, children_mk, everyIn_append,
      everyIn_append] at every
    -- The reference stands below one of the blocks.
    obtain ⟨n, among, mem⟩ := List.mem_flatMap.1 (nodes ▸ List.mem_singleton_self _)
    obtain ⟨m, below, same⟩ := List.mem_map.1 mem
    have identifier : m.payload.identifier = some "ß" := congrArg Prod.snd same
    have outer := everyIn_iff_forall_mem.1 every.1.2 n among
    have inner := everyIn_iff_forall_mem.1 (every_iff.1 outer).2 m below
    obtain ⟨d, defined, name⟩ := (every_iff.1 inner).1 (.inl (congrArg Prod.fst same))
    have listed : d.payload.identifier ∈ (definitions doc.env.links).map fun d => d.payload.identifier :=
      List.mem_map.2 ⟨d, defined, rfl⟩
    rw [names, List.mem_singleton, name, identifier] at listed
    exact absurd listed (by decide)

/-! ### Names tell definitions apart -/

/-- Definitions that are stored under distinct keys, those of their labels, have distinct identifiers. -/
theorem nodup_identifiers {links : List (String × Definition)}
    (stored : ∀ e ∈ links, ∃ label, e.2.label = some label ∧ labelKey label = e.1)
    (distinct : (links.map Prod.fst).Nodup) :
    ((definitions links).map fun d => d.payload.identifier).Nodup := by
  -- In upper case the identifiers are the keys.
  have keys : ((definitions links).map fun d => d.payload.identifier).map (Option.map Text.upperString) =
      (links.map Prod.fst).map some := by
    rw [definitions, List.map_map, List.map_map, List.map_map]
    refine List.map_congr_left fun e mem => ?_
    obtain ⟨label, -, identifier, key⟩ := identifier_of_stored (stored e mem)
    rw [Function.comp_apply, Function.comp_apply, identifier, Option.map_some, key]
    rfl
  refine List.Nodup.of_map (Option.map Text.upperString) ?_
  rw [keys]
  exact distinct.map (Option.some_injective String)

/-- A link or an image with a reference becomes one node, which refers by the name of its label. -/
theorem phrases_reference {t : Token} {r : Data} {label : String} (type : t.type = .link ∨ t.type = .image)
    (reference : t.reference = some r) (has_label : t.label = some (.str label)) :
    ∃ n, phrases [t] = [n] ∧ IsReference n ∧ n.payload.identifier = some (labelName label) := by
  obtain ⟨type', raw, attrs, reference', label', children⟩ := t
  cases reference
  cases has_label
  rcases type with is_link | is_image
  · cases is_link
    exact ⟨Build.linkReference (labelName label) (phrases children), by simp [phrases, phrasesFrom, release,
      referenceName], .inl rfl, rfl⟩
  · cases is_image
    exact ⟨Build.imageReference (labelName label) (Token.flatten children), by simp [phrases, phrasesFrom,
      release, referenceName], .inr rfl, rfl⟩

/-- Definitions that are stored under distinct keys, those of their labels, become one node each, in their
    order, and no two of these have one identifier. A reference that was resolved by the key of its label
    has the identifier of no definition but the one under this key. -/
theorem definitions_named_apart {links : List (String × Definition)}
    (stored : ∀ e ∈ links, ∃ label, e.2.label = some label ∧ labelKey label = e.1)
    (distinct : (links.map Prod.fst).Nodup) :
    List.Forall₂ (fun e d => ∃ label, e.2.label = some label ∧
      d = Build.definition (labelName label) (urlOf e.2.url) (decodeTitle e.2.title))
        links (definitions links) ∧
    ((definitions links).map fun d => d.payload.identifier).Nodup ∧
    ∀ (t : Token) (label : String), t.type = .link ∨ t.type = .image → t.label = some (.str label) →
      t.reference = some (.str (labelKey label)) →
        ∃ n, phrases [t] = [n] ∧ IsReference n ∧
          ∀ e ∈ links, (e.2.node e.1).payload.identifier = n.payload.identifier →
            e.1 = labelKey label ∧ links.lookup (labelKey label) = some e.2 := by
  refine ⟨?_, nodup_identifiers stored distinct, ?_⟩
  · rw [definitions, List.forall₂_map_right_iff, List.forall₂_same]
    intro e mem
    obtain ⟨label, has_label, -⟩ := stored e mem
    exact ⟨label, has_label, Definition.node_of_label has_label⟩
  · intro t label type has_label reference
    obtain ⟨n, node, is_reference, identifier⟩ := phrases_reference type reference has_label
    refine ⟨n, node, is_reference, fun e mem same => ?_⟩
    obtain ⟨label', -, identifier', key⟩ := identifier_of_stored (stored e mem)
    have names : labelName label' = labelName label := by
      rw [identifier', identifier, Option.some_inj] at same
      exact same
    have found : e.1 = labelKey label := by
      rw [← key, names, upperString_labelName]
    exact ⟨found, found ▸ lookup_eq_some_of_mem distinct mem⟩

/-- Labels that differ in case and in white space are those of one definition; that of a label with the same
    letters and an accent is another. -/
theorem definitions_named_apart_accent :
    let links : List (String × Definition) :=
      [("É A", ⟨some "é  a", some (.str "/u"), none⟩), ("E A", ⟨some "e a", some (.str "/v"), none⟩)]
    let t := Token.mk .link none [] (some (.str "É A")) (some (.str "É\ta")) [.leaf .text "x"]
    ((definitions links).map fun d => d.payload.identifier).Nodup ∧
      ∃ n, phrases [t] = [n] ∧ IsReference n ∧
        ∀ e ∈ links, (e.2.node e.1).payload.identifier = n.payload.identifier →
          e.1 = "É A" ∧ links.lookup "É A" = some e.2 := by
  intro links t
  have key : labelKey "é  a" = "É A" := by cbv
  have key' : labelKey "e a" = "E A" := by cbv
  have key'' : labelKey "É\ta" = "É A" := by cbv
  have stored : ∀ e ∈ links, ∃ label, e.2.label = some label ∧ labelKey label = e.1 := by
    simp [links, key, key']
  have distinct : (links.map Prod.fst).Nodup := by decide
  obtain ⟨-, apart, attributed⟩ := definitions_named_apart stored distinct
  have meant := attributed t "É\ta" (.inl rfl) rfl (by rw [key'']; rfl)
  rw [key''] at meant
  exact ⟨apart, meant⟩

end Unmark.Markdown
