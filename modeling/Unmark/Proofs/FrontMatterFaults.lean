import Unmark.Failure
import Unmark.Proofs.ParsedJson

/-
Module: Unmark.Proofs.FrontMatterFaults
Layer: Proofs
Purpose: What front matter can do to the parsing of a text. Front matter that is no YAML is taken off with a
  warning and has the value null. A scalar that has the look of a type and no value of it is the one thing
  that stops the parsing. Otherwise the front matter reaches the metadata of the root and one node only: the
  rest of the tree is that of the text behind it.
Main exports: FrontMatter.Settles, bodyOf, parse_eq_error_iff, parse_around_frontMatter,
  parse_thirteenth_month
-/

namespace Unmark.Markdown

open Node

namespace FrontMatter

/-! ### Taking front matter off -/

/-- The source of front matter comes to a value and to records: the value that it is loaded with, or null
    and a warning if it is no YAML. -/
inductive Settles (source : List Char) : Data → List Log.Record → Prop
  | loaded {d : Data} : Yaml.load source = .ok d → Settles source d []
  | ignored : Yaml.load source = .error .invalid → Settles source .null [ignored source]

section

variable {cs source rest : List Char}

/-- Front matter whose source is no YAML is taken off with a warning, and its value is null. -/
theorem extract_ignored (cut : cut? cs = some (source, rest)) (invalid : Yaml.load source = .error .invalid) :
    extract cs = .ok ⟨some ⟨textOf source, .null⟩, rest, [ignored source]⟩ := by
  simp only [extract, cut, invalid]

/-- A scalar of front matter that has no value is the fault of taking it off. -/
theorem extract_fault (cut : cut? cs = some (source, rest)) {f : Yaml.Fault}
    (fails : Yaml.load source = .error f) (scalar : f ≠ .invalid) : extract cs = .error f := by
  simp only [extract, cut, fails]

/-- What is taken off a text with front matter is settled by the source of the front matter. -/
theorem extract_eq_ok (cut : cut? cs = some (source, rest)) {e : Extracted} (taken : extract cs = .ok e) :
    ∃ d log, Settles source d log ∧ e = ⟨some ⟨textOf source, d⟩, rest, log⟩ := by
  cases loads : Yaml.load source with
  | ok d =>
      simp only [extract, cut, loads] at taken
      cases taken
      exact ⟨d, [], .loaded loads, rfl⟩
  | error f =>
      by_cases invalid : f = .invalid
      · rw [invalid] at loads
        cases (extract_ignored cut loads).symm.trans taken
        exact ⟨.null, [ignored source], .ignored loads, rfl⟩
      · cases (extract_fault cut loads invalid).symm.trans taken

/-- Taking off front matter fails exactly with the fault of a scalar in it. -/
theorem extract_eq_error_iff {f : Yaml.Fault} : extract cs = .error f ↔
    ∃ source rest, cut? cs = some (source, rest) ∧ Yaml.load source = .error f ∧ f ≠ .invalid := by
  constructor
  · intro failed
    cases cut : cut? cs with
    | none =>
        simp only [extract, cut] at failed
        cases failed
    | some parts =>
        obtain ⟨source, rest⟩ := parts
        refine ⟨source, rest, rfl, ?_⟩
        cases loads : Yaml.load source with
        | ok d =>
            simp only [extract, cut, loads] at failed
            cases failed
        | error g =>
            by_cases invalid : g = .invalid
            · rw [invalid] at loads
              cases (extract_ignored cut loads).symm.trans failed
            · cases (extract_fault cut loads invalid).symm.trans failed
              exact ⟨rfl, invalid⟩
  · rintro ⟨source, rest, cut, fails, scalar⟩
    exact extract_fault cut fails scalar

end

end FrontMatter

/-! ### The rest of the tree -/

/-- The children of a root other than the node of front matter. -/
def bodyOf (tree : Node) : List Node := tree.children.filter fun n => n.kind ≠ .tag .frontMatter

/-- The body of a document is made of its tokens and definitions, whatever front matter it has. -/
theorem bodyOf_treeOf (o : Options) (found : Option FrontMatter) (doc : Document) :
    bodyOf (doc.treeOf o found) = blocks doc.tokens ++ definitionNodes o doc.env := by
  have front : (frontMatterNodes o found).filter (fun n => n.kind ≠ .tag .frontMatter) = [] := by
    rw [List.filter_eq_nil_iff]
    intro n mem
    simpa using kind_of_mem_frontMatterNodes mem
  have tokens : (blocks doc.tokens).filter (fun n => n.kind ≠ .tag .frontMatter) = blocks doc.tokens := by
    rw [List.filter_eq_self]
    intro n mem
    exact decide_eq_true (kind_of_mem_blocks doc.tokens n mem).2
  have defined : (definitionNodes o doc.env).filter (fun n => n.kind ≠ .tag .frontMatter) =
      definitionNodes o doc.env := by
    rw [List.filter_eq_self]
    intro n mem
    rw [kind_of_mem_definitionNodes mem]
    rfl
  rw [bodyOf, Document.treeOf, Build.root, children_mk, List.filter_append, List.filter_append, front,
    tokens, defined, List.nil_append]

/-! ### Parsing -/

/-- Parsing fails exactly when front matter is read and taking it off fails. -/
theorem parse_eq_error_iff {o : Options} {text : String} {f : Yaml.Fault} : parse o text = .error f ↔
    o.frontMatter = true ∧ FrontMatter.extract text.toList = .error f := by
  unfold parse withoutFrontMatter
  cases on : o.frontMatter with
  | false =>
      constructor
      · intro failed
        cases failed
      · rintro ⟨absurd_on, -⟩
        cases absurd_on
  | true =>
      rw [if_pos rfl]
      cases FrontMatter.extract text.toList with
      | ok e =>
          constructor
          · intro failed
            cases failed
          · rintro ⟨-, failed⟩
            cases failed
      | error g =>
          constructor
          · intro failed
            cases failed
            exact ⟨rfl, rfl⟩
          · rintro ⟨-, failed⟩
            cases failed
            rfl

/-- A text stops the parsing exactly when its front matter is read and a scalar in it has no value. When
    front matter is read, what is no YAML is taken off with a warning and counts as null; and whenever the
    text is parsed, the value is the metadata of the root, the body is the tree of the text behind the front
    matter, and the records of that text follow the warning. -/
theorem parse_around_frontMatter (o : Options) (text : String) :
    (∀ f, parse o text = .error f ↔ o.frontMatter = true ∧ ∃ source rest,
      FrontMatter.cut? text.toList = some (source, rest) ∧ Yaml.load source = .error f ∧ f ≠ .invalid) ∧
    ∀ source rest, o.frontMatter = true → FrontMatter.cut? text.toList = some (source, rest) →
      (Yaml.load source = .error .invalid → FrontMatter.extract text.toList =
        .ok ⟨some ⟨FrontMatter.textOf source, .null⟩, rest, [FrontMatter.ignored source]⟩) ∧
      ∃ q, parse { o with frontMatter := false } (String.ofList rest) = .ok q ∧
        ∀ p, parse o text = .ok p → bodyOf p.tree = q.tree.children ∧ ∃ d log,
          FrontMatter.Settles source d log ∧ p.tree.metadata = [(.str "frontmatter", d)] ∧
          p.log = log ++ q.log := by
  constructor
  · intro f
    rw [← FrontMatter.extract_eq_error_iff]
    exact parse_eq_error_iff
  · intro source rest on cut
    constructor
    · intro invalid
      exact FrontMatter.extract_ignored cut invalid
    · refine ⟨_, parse_eq_ok_iff.2 ⟨⟨none, rest, []⟩, ?_, rfl⟩, ?_⟩
      · rw [String.toList_ofList]
        rfl
      · intro p parsed
        obtain ⟨e, taken, rfl⟩ := parse_eq_ok_iff.1 parsed
        rw [withoutFrontMatter, if_pos on] at taken
        obtain ⟨d, log, settles, rfl⟩ := FrontMatter.extract_eq_ok cut taken
        refine ⟨bodyOf_treeOf .., d, log, settles, rfl, rfl⟩

/-- Front matter with two colons on a line is no YAML: the text behind it is parsed as if it stood alone. -/
theorem parse_around_two_colons : ∃ p q, parse {} "---\na: b: c\n---\nx\n" = .ok p ∧
    parse { frontMatter := false } "x\n" = .ok q ∧ bodyOf p.tree = q.tree.children ∧
      p.tree.metadata = [(.str "frontmatter", .null)] ∧ p.log = FrontMatter.ignored "a: b: c\n".toList :: q.log := by
  have cut : FrontMatter.cut? "---\na: b: c\n---\nx\n".toList
      = some ("a: b: c\n".toList, "x\n".toList) := by decide +kernel
  have invalid : Yaml.load "a: b: c\n".toList = .error .invalid := by
    have tokens : Yaml.Token.scan "a: b: c\n".toList =
        [.blockMappingStart, .key, .scalar "a" true, .value, .scalar "b" true, .fault .invalid] := by
      decide +kernel
    rw [Yaml.load, tokens]
    rfl
  have around := parse_around_frontMatter {} "---\na: b: c\n---\nx\n"
  obtain ⟨-, q, parsed_rest, body⟩ := around.2 _ _ rfl cut
  cases parsed : parse {} "---\na: b: c\n---\nx\n" with
  | error f =>
      obtain ⟨-, source, rest, cut', fails, scalar⟩ := (around.1 f).1 parsed
      cases cut.symm.trans cut'
      cases invalid.symm.trans fails
      exact absurd rfl scalar
  | ok p =>
      obtain ⟨same, d, log, settles, root, records⟩ := body p parsed
      refine ⟨p, q, rfl, parsed_rest, same, ?_⟩
      cases settles with
      | loaded loads => cases invalid.symm.trans loads
      | ignored _ => exact ⟨root, records⟩

/-! ### A date without a value -/

theorem cut?_thirteenth_month : FrontMatter.cut? "---\ndate: 2024-13-45\n---\nx\n".toList
    = some ("date: 2024-13-45\n".toList, "x\n".toList) := by decide +kernel

theorem load_thirteenth_month : Yaml.load "date: 2024-13-45\n".toList = .error .month := by
  have tokens : Yaml.Token.scan "date: 2024-13-45\n".toList =
      [.blockMappingStart, .key, .scalar "date" true, .value, .scalar "2024-13-45" true, .blockEnd,
        .streamEnd] := by decide +kernel
  rw [Yaml.load, tokens]
  rfl

/-- Front matter with a thirteenth month is no date: the whole text is refused for it. -/
theorem parse_thirteenth_month : parse {} "---\ndate: 2024-13-45\n---\nx\n" = .error .month ∧
    FrontMatter.extract "---\ndate: 2024-13-45\n---\nx\n".toList = .error .month ∧
    Yaml.Fault.month.failure = .plain .value "month must be in 1..12" := by
  have extracted := FrontMatter.extract_fault cut?_thirteenth_month load_thirteenth_month (by decide)
  exact ⟨parse_eq_error_iff.2 ⟨rfl, extracted⟩, extracted, rfl⟩

end Unmark.Markdown
