import Unmark.Proofs.ParsedTree
import Unmark.Proofs.TreeEcho

/-
Module: Unmark.Proofs.ParsedJson
Layer: Proofs
Purpose: Parsed trees through JSON text. The grammar keeps the integers of a tree short and gives every node a
  known kind, so front matter alone decides: a parsed tree has a JSON text exactly when JSON has a form for
  the value of its front matter. What is reloaded is then the parsed tree up to metadata, and it is rendered
  to the same text. A date in front matter has no form in JSON.
Main exports: describable_parsed_iff, wellNamed_parsed, reload_parsed, toJson_dated_ne_ok
-/

namespace Unmark.Markdown

open Node

/-! ### The nodes of a parsed tree -/

theorem writable_of_natAbs_lt {n : Int} (small : n.natAbs < 1000000000) : Json.Writable n := by
  have short : (Nat.toDigits 10 n.natAbs).length ≤ 9 :=
    (Nat.length_toDigits_le_iff (by decide) (by decide)).2 small
  exact short.trans (by decide)

/-- A sound token becomes a node that can be described: levels and first numbers are short. -/
theorem Token.Sound.makes_describable {known : List (String × Definition)} {t : Token}
    (sound : t.Sound known) : t.Makes Describable := by
  intro tag payload made cs
  refine ⟨?_, trivial⟩
  obtain ⟨t, raw, attrs, reference, label, children⟩ := t
  cases t
  case heading =>
    cases made
    refine ⟨fun n depth => writable_of_natAbs_lt ?_, fun n start => by cases start⟩
    have level := sound.level rfl n depth
    omega
  case list =>
    cases made
    refine ⟨fun n depth => (by cases depth), fun n start => writable_of_natAbs_lt ?_⟩
    have number := sound.number rfl n start
    omega
  case link | image => cases reference <;> cases made <;> exact Payload.plain_of_eq_none rfl rfl
  all_goals cases made <;> exact Payload.plain_of_eq_none rfl rfl

theorem describable_frontMatter {raw : String} {d : Data} (expressible : d.Expressible) :
    Describable (Build.frontMatter raw d) := by
  refine ⟨Payload.plain_of_eq_none rfl rfl, ?_⟩
  cases d
  case null => trivial
  all_goals exact ⟨trivial, expressible, trivial⟩

/-- The nodes of a parsed tree can be described exactly when the metadata of its root is expressible. -/
theorem describable_parsed_iff {o : Options} {source : String} {p : Parsed}
    (parsed : parse o source = .ok p) :
    p.tree.Every Describable ↔ Data.ExpressibleEntries p.tree.metadata := by
  obtain ⟨e, -, rfl⟩ := parse_eq_ok_iff.1 parsed
  rw [every_iff]
  constructor
  · rintro ⟨⟨-, metadata⟩, -⟩
    exact metadata
  · intro metadata
    refine ⟨⟨Payload.plain_of_eq_none rfl rfl, metadata⟩, ?_⟩
    refine everyIn_treeOf (sound_tokenize o e.rest).2 ?_ ?_ ?_ ?_
    · exact fun s => ⟨Payload.plain_of_eq_none rfl rfl, trivial⟩
    · exact fun t sound => sound.makes_describable
    · exact fun name url title => ⟨Payload.plain_of_eq_none rfl rfl, trivial⟩
    · -- The root carries the very value that the node of the front matter carries.
      intro f found
      have root : (Document.treeOf o e.found (tokenize o e.rest)).metadata
          = [(.str "frontmatter", f.data)] := by
        rw [Option.mem_def.1 found]
        rfl
      rw [root] at metadata
      exact describable_frontMatter metadata.2.1

/-- The kinds of a parsed tree are known ones, and so readable. -/
theorem wellNamed_parsed {o : Options} {source : String} {p : Parsed} (parsed : parse o source = .ok p) :
    p.tree.WellNamed := by
  have known : ∀ n : Node, PlainText.Printable n → n.kind.Readable := by
    intro n printable
    have isKnown := printable.1
    cases kind : n.kind with
    | tag t => trivial
    | foreign name fresh => simp [kind, Kind.isKnown] at isKnown
  have below := EveryIn.imp known _ (printable_parsed parsed)
  obtain ⟨e, -, rfl⟩ := parse_eq_ok_iff.1 parsed
  rw [wellNamed_iff_every, every_iff]
  exact ⟨trivial, below⟩

/-- A text whose front matter has a value is parsed, and the root of its tree carries the value. -/
theorem exists_parsed_of_load (o : Options) (on : o.frontMatter = true) {text : String}
    {source rest : List Char} {d : Data} (cut : FrontMatter.cut? text.toList = some (source, rest))
    (loaded : Yaml.load source = .ok d) :
    ∃ p, parse o text = .ok p ∧ p.tree.metadata = [(.str "frontmatter", d)] := by
  have extracted : ∃ raw, withoutFrontMatter o text.toList = .ok ⟨some ⟨raw, d⟩, rest, []⟩ := by
    simp [withoutFrontMatter, on, FrontMatter.extract, cut, loaded]
  obtain ⟨raw, extracted⟩ := extracted
  exact ⟨_, parse_eq_ok_iff.2 ⟨_, extracted, rfl⟩, rfl⟩

/-! ### Through JSON text and back -/

/-- A parsed tree has a JSON text exactly when JSON has a form for the value of its front matter, whatever
    the indentation. The text is read as a tree that equals the parsed one and is rendered like it. -/
theorem reload_parsed (o : Options) (source : String) {p : Parsed} (parsed : parse o source = .ok p)
    (indent : Option Int) :
    ((∃ json, p.tree.toJson indent = .ok json) ↔ Data.ExpressibleEntries p.tree.metadata) ∧
      ∀ json, p.tree.toJson indent = .ok json →
        ∃ t, Node.ofJson json = .ok t ∧ (t == p.tree) = true ∧
          ∀ options, PlainText.render options t = PlainText.render options p.tree := by
  constructor
  · rw [exists_toJson_iff, describable_parsed_iff parsed]
  · intro json wrote
    obtain ⟨t, back, same⟩ := exists_ofJson_of_toJson (wellNamed_parsed parsed) wrote
    refine ⟨t, back, (beq_iff_bare_eq _ _).2 same, fun options => ?_⟩
    rw [← PlainText.render_bare options t, same, PlainText.render_bare]

/-- Front matter with a key that is a number: the metadata comes back with a string for a key, but the tree
    and its texts are the same. -/
theorem reload_numbered :
    ∃ p json t, parse {} "---\n1: yes\n---\n~~x~~\n" = .ok p ∧ p.tree.toJson (some 2) = .ok json ∧
      Node.ofJson json = .ok t ∧ (t == p.tree) = true ∧
      ∀ options, PlainText.render options t = PlainText.render options p.tree := by
  have cut : FrontMatter.cut? "---\n1: yes\n---\n~~x~~\n".toList
      = some ("1: yes\n".toList, "~~x~~\n".toList) := by decide +kernel
  have tokens : Yaml.Token.scan "1: yes\n".toList =
      [.blockMappingStart, .key, .scalar "1" true, .value, .scalar "yes" true, .blockEnd,
        .streamEnd] := by decide +kernel
  have loaded : Yaml.load "1: yes\n".toList = .ok (.map [(.int 1, .bool true)]) := by
    rw [Yaml.load, tokens]
    rfl
  obtain ⟨p, parsed, root⟩ := exists_parsed_of_load {} rfl cut loaded
  have one : Json.Writable 1 := by decide
  have expressible : Data.ExpressibleEntries p.tree.metadata := by
    rw [root]
    exact ⟨trivial, ⟨one, trivial, trivial⟩, trivial⟩
  have through := reload_parsed {} _ parsed (some 2)
  obtain ⟨json, wrote⟩ := through.1.2 expressible
  obtain ⟨t, back, same⟩ := through.2 json wrote
  exact ⟨p, json, t, parsed, wrote, back, same⟩

/-- A text whose front matter has a value without a form in JSON is parsed, and its tree has no JSON text. -/
theorem exists_parsed_without_json {text : String} {source rest : List Char} {d : Data}
    (cut : FrontMatter.cut? text.toList = some (source, rest)) (loaded : Yaml.load source = .ok d)
    (formless : ¬ d.Expressible) :
    ∃ p, parse {} text = .ok p ∧ ∀ indent json, p.tree.toJson indent ≠ .ok json := by
  obtain ⟨p, parsed, root⟩ := exists_parsed_of_load {} rfl cut loaded
  refine ⟨p, parsed, fun indent json wrote => formless ?_⟩
  have expressible := (describable_parsed_iff parsed).1 (exists_toJson_iff.1 ⟨json, wrote⟩)
  rw [root] at expressible
  exact expressible.2.1

/-- A list that holds itself has no form. -/
example : ∃ p, parse {} "---\n&a [*a]\n---\nx\n" = .ok p ∧ ∀ indent json, p.tree.toJson indent ≠ .ok json := by
  have cut : FrontMatter.cut? "---\n&a [*a]\n---\nx\n".toList = some ("&a [*a]\n".toList, "x\n".toList) := by
    decide +kernel
  have tokens : Yaml.Token.scan "&a [*a]\n".toList =
      [.anchor "a", .flowSequenceStart, .alias "a", .flowSequenceEnd, .streamEnd] := by decide +kernel
  have loaded : Yaml.load "&a [*a]\n".toList = .ok (.list [.enclosing .list]) := by
    rw [Yaml.load, tokens]
    rfl
  exact exists_parsed_without_json cut loaded fun expressible => expressible.1

/-- A document with a date in its front matter is parsed, and its tree has no JSON text. -/
theorem toJson_dated_ne_ok :
    ∃ p, parse {} "---\ndate: 2024-01-02\n---\nx\n" = .ok p ∧
      ∀ indent json, p.tree.toJson indent ≠ .ok json := by
  have cut : FrontMatter.cut? "---\ndate: 2024-01-02\n---\nx\n".toList
      = some ("date: 2024-01-02\n".toList, "x\n".toList) := by decide +kernel
  have tokens : Yaml.Token.scan "date: 2024-01-02\n".toList =
      [.blockMappingStart, .key, .scalar "date" true, .value, .scalar "2024-01-02" true, .blockEnd,
        .streamEnd] := by decide +kernel
  have loaded : Yaml.load "date: 2024-01-02\n".toList = .ok (.map [(.str "date", .date 2024 1 2)]) := by
    rw [Yaml.load, tokens]
    rfl
  exact exists_parsed_without_json cut loaded fun expressible => expressible.2.1

end Unmark.Markdown
