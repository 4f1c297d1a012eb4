import Mathlib.Data.List.DropRight
import Mathlib.Data.List.TakeWhile
import Mathlib.Tactic.SplitIfs
import Unmark.Proofs.JsonScalar
import Unmark.Proofs.ParsedTree
import Unmark.Proofs.TextLines

/-
Module: Unmark.Proofs.OneLine
Layer: Proofs
Purpose: Documents of one line. No block starts on a line whose first character, after three spaces at most, is
  no mark of a block and which is neither a list item nor a footnote (`Ordinary`), unless it is the definition
  of a link. Such a line is a paragraph; a line that is a definition leaves nothing else behind. Neither of
  them holds front matter.
Main exports: Ordinary, attempt_ordinary, run_paragraph, run_definition, parse_paragraph, parse_definition
-/

namespace Unmark.Markdown

/-- The marks that start blocks, list items with a number, definitions and tables apart. -/
def blockMarks : List Char := ['\x60', '~', '#', '=', '-', '_', '*', '+', '>', '<']

/-- A line on which no block starts, a definition apart. -/
structure Ordinary (line : List Char) : Prop where
  oneLine : ∀ c ∈ line, c ≠ '\n' ∧ c ≠ '\r'
  start : ∃ n c rest, n ≤ 3 ∧ line = List.replicate n ' ' ++ c :: rest ∧ ' ' < c ∧ c ∉ blockMarks ∧
    ¬ (c = '[' ∧ rest.head? = some '^')
  noItem : listStart? line = none

/-! ### Lines -/

variable {line : List Char}

theorem takeLine_of_feed (unbroken : '\n' ∉ line) (rest : List Char) :
    takeLine (line ++ '\n' :: rest) = (line, true, rest) := by
  have body : (line ++ '\n' :: rest).takeWhile (· ≠ '\n') = line :=
    Json.takeWhile_append_of_stops (fun c mem => decide_eq_true fun same => unbroken (same ▸ mem)) (by simp)
  rw [takeLine, body]
  simp

theorem linesOf_of_feed (unbroken : '\n' ∉ line) : linesOf (line ++ ['\n']) = [line ++ ['\n']] := by
  induction line with
  | nil => rfl
  | cons c line ih =>
      rw [List.mem_cons, not_or] at unbroken
      rw [List.cons_append, linesOf, if_neg (Ne.symm unbroken.1), ih unbroken.2]

theorem leadingSpaces_replicate {n most : Nat} (few : n ≤ most) {c : Char} (shown : ' ' < c)
    (rest : List Char) : leadingSpaces most (List.replicate n ' ' ++ c :: rest) = (n, c :: rest) := by
  induction n generalizing most with
  | zero =>
      rw [List.replicate_zero, List.nil_append, leadingSpaces]
      intro most' rest' _ same
      obtain ⟨rfl, -⟩ := List.cons_eq_cons.1 same
      exact absurd shown (by decide)
  | succ n ih =>
      obtain ⟨most, rfl⟩ : ∃ m, most = m + 1 := ⟨most - 1, by omega⟩
      rw [List.replicate_succ, List.cons_append, leadingSpaces, ih (by omega)]

theorem ne_of_shown {c d : Char} (shown : ' ' < c) (low : d ≤ ' ') : c ≠ d := by
  rintro rfl
  exact absurd shown (Char.not_lt.2 low)

/-! ### No block starts -/

namespace Ordinary

variable (ordinary : Ordinary line)

include ordinary

theorem unbroken : '\n' ∉ line := fun mem => (ordinary.oneLine _ mem).1 rfl

/-- What stands behind the spaces at the start of the line, with more behind the line. -/
theorem leadingSpaces_three (more : List Char) : ∃ n c rest, n ≤ 3 ∧ c ∈ line ∧
    leadingSpaces 3 (line ++ more) = (n, c :: (rest ++ more)) ∧ leadingSpaces 3 line = (n, c :: rest) ∧
    ' ' < c ∧ c ∉ blockMarks ∧ ¬ (c = '[' ∧ rest.head? = some '^') := by
  obtain ⟨n, c, rest, few, rfl, shown, mark, note⟩ := ordinary.start
  refine ⟨n, c, rest, few, by simp, ?_, leadingSpaces_replicate few shown rest, shown, mark, note⟩
  rw [List.append_assoc, List.cons_append, leadingSpaces_replicate few shown]

theorem fence? : Leaf.fence? line = none := by
  obtain ⟨n, c, rest, -, -, -, spaces, -, mark, -⟩ := ordinary.leadingSpaces_three []
  simp only [blockMarks, List.mem_cons, not_or] at mark
  simp [Leaf.fence?, spaces, mark]

theorem isIndented : Unmark.Markdown.isIndented line = false := by
  obtain ⟨n, c, rest, few, rfl, shown, mark, -⟩ := ordinary.start
  have no_space : c ≠ ' ' := ne_of_shown shown (by decide)
  have dropped : (List.replicate n ' ' ++ c :: rest).dropWhile (· = ' ') = c :: rest :=
    Json.dropWhile_append_of_stops (by simp) (by simpa using no_space)
  rw [Unmark.Markdown.isIndented, leadingSpaces_replicate (by omega) shown, dropped, Bool.or_eq_false_iff]
  constructor
  · split
    · next four => simp at four; omega
    · rfl
  · split
    · next tab => exact absurd (List.cons_eq_cons.1 tab).1 (ne_of_shown shown (by decide))
    · rfl

theorem underlineLevel? : Leaf.underlineLevel? line = none := by
  obtain ⟨n, c, rest, -, -, -, spaces, shown, mark, -⟩ := ordinary.leadingSpaces_three []
  simp only [blockMarks, List.mem_cons, not_or] at mark
  have no_blank : isBlank c = false := by
    simp [isBlank, ne_of_shown shown, show '\t' ≤ ' ' by decide]
  rw [Leaf.underlineLevel?, dropSpaces, spaces, Text.trimEndBy_eq_rdropWhile]
  have start := List.rdropWhile_prefix isBlank (c :: rest)
  cases body : (c :: rest).rdropWhile isBlank with
  | nil =>
      have blank := List.rdropWhile_eq_nil_iff.1 body c List.mem_cons_self
      rw [no_blank] at blank
      cases blank
  | cons d ds =>
      rw [body] at start
      obtain ⟨rfl, -⟩ := List.cons_prefix_cons.1 start
      simp [mark]

theorem isThematicBreak : Leaf.isThematicBreak line = false := by
  obtain ⟨n, c, rest, -, -, -, spaces, shown, mark, -⟩ := ordinary.leadingSpaces_three []
  simp only [blockMarks, List.mem_cons, not_or] at mark
  simp [Leaf.isThematicBreak, dropSpaces, spaces, mark]

theorem isMarked : Unmark.Markdown.isMarked line = false := by
  obtain ⟨n, c, rest, -, -, -, spaces, shown, mark, -⟩ := ordinary.leadingSpaces_three []
  simp only [blockMarks, List.mem_cons, not_or] at mark
  simp [Unmark.Markdown.isMarked, dropSpaces, spaces, mark]

theorem isBlankFullLine : Unmark.Markdown.isBlankFullLine (line ++ ['\n']) = false := by
  obtain ⟨n, c, rest, -, mem, -, -, shown, -, -⟩ := ordinary.leadingSpaces_three []
  rw [Unmark.Markdown.isBlankFullLine, List.dropLast_concat, Bool.and_eq_false_iff]
  right
  rw [isBlankLine, List.all_eq_false]
  refine ⟨c, mem, ?_⟩
  have other {d : Char} (low : d ≤ ' ') : c ≠ d := ne_of_shown shown low
  simp [other (d := ' ') (by decide), other (d := '\t') (by decide), other (d := '\x0b') (by decide),
    other (d := '\x0c') (by decide)]

theorem noteKey? : Unmark.Markdown.noteKey? (dropSpaces 3 (line ++ ['\n'])) = none := by
  obtain ⟨n, c, rest, -, -, spaces, -, shown, mark, note⟩ := ordinary.leadingSpaces_three ['\n']
  rw [dropSpaces, spaces]
  unfold Unmark.Markdown.noteKey?
  split
  · next rest' same =>
      obtain ⟨rfl, behind⟩ := List.cons_eq_cons.1 same
      refine absurd ⟨rfl, ?_⟩ note
      cases rest with
      | nil => cases behind
      | cons d rest =>
          obtain ⟨rfl, -⟩ := List.cons_eq_cons.1 behind
          rfl
  · rfl

theorem opening? : Leaf.opening? (dropSpaces 3 (line ++ ['\n'])) = none := by
  obtain ⟨n, c, rest, -, -, spaces, -, shown, mark, -⟩ := ordinary.leadingSpaces_three ['\n']
  have other : c ≠ '<' := fun same => mark (same ▸ by decide)
  rw [dropSpaces, spaces]
  unfold Leaf.opening?
  split
  case h_7 => rfl
  all_goals
    next same => exact absurd (List.cons_eq_cons.1 same).1 other

end Ordinary

/-- Where an ordinary line is ahead, only the definition of a link may start. -/
theorem attempt_ordinary (ordinary : Ordinary line) {s : Scan} (ahead : s.ahead = line ++ ['\n'])
    (fuel : Nat) (rules : Rules) (depth : Nat) :
    attempt (fuel + 1) rules depth s = linkDefinition s := by
  have taken : takeLine s.ahead = (line, true, []) := by rw [ahead, takeLine_of_feed ordinary.unbroken]
  have fenced : Leaf.fencedCode s = .absent := by rw [Leaf.fencedCode, taken, ordinary.fence?]
  have indented : Leaf.indentedCode s = .absent := by
    rw [Leaf.indentedCode, taken]
    simp [ordinary.isIndented]
  have heading : Leaf.markedHeading s = .absent := by
    obtain ⟨n, c, rest, -, -, -, spaces, -, mark, -⟩ := ordinary.leadingSpaces_three []
    simp only [blockMarks, List.mem_cons, not_or] at mark
    simp [Leaf.markedHeading, taken, dropSpaces, spaces, mark, Leaf.isHeadingLevel]
  have underlined : underline fuel depth s = .absent := by
    cases fuel with
    | zero => rw [underline]
    | succ fuel => rw [underline, taken, ordinary.underlineLevel?]
  have broken : Leaf.thematicBreak s = .absent := by
    rw [Leaf.thematicBreak, taken, ordinary.isThematicBreak]
    rfl
  have quoted : quote fuel depth s = .absent := by
    cases fuel with
    | zero => rw [quote]
    | succ fuel => simp [quote, taken, ordinary.isMarked]
  have listed : list fuel depth s = .absent := by
    cases fuel with
    | zero => rw [list]
    | succ fuel => rw [list, taken, ordinary.noItem]
  have noted : noteDefinition s = .absent := by
    have no_key : noteKey? (leadingSpaces 3 s.ahead).2 = none := ahead ▸ ordinary.noteKey?
    unfold noteDefinition
    split
    next spaces => simp only [spaces ▸ no_key]
  have markup : Leaf.htmlBlock s = .absent := by rw [Leaf.htmlBlock, ahead, ordinary.opening?]
  have filled : Leaf.blankLines s = .absent := by
    rw [Leaf.blankLines, ahead, linesOf_of_feed ordinary.unbroken]
    simp [ordinary.isBlankFullLine]
  have framed : Table.framedTable s = .absent := by
    rw [Table.framedTable, taken]
    rfl
  have opened : Table.openTable s = .absent := by
    rw [Table.openTable, taken]
    rfl
  rw [attempt]
  simp only [Attempt.firstOf, fenced, indented, heading, underlined, broken, quoted, listed, noted, markup,
    filled, framed, opened, ite_self]
  cases linkDefinition s <;> rfl

/-- A definition starts with a bracket. -/
theorem linkDefinition_of_no_bracket {n : Nat} (few : n ≤ 3) {c : Char} (shown : ' ' < c) (other : c ≠ '[')
    (rest : List Char) (env : Environment) :
    linkDefinition { ahead := List.replicate n ' ' ++ c :: rest, env } = .absent := by
  unfold linkDefinition
  rw [dropSpaces, leadingSpaces_replicate few shown]
  split
  · next same => exact absurd (List.cons_eq_cons.1 same).1 other
  · rfl

/-! ### The whole document -/

/-- Without footnote references a document has the tokens of its blocks. -/
theorem tokenize_of_run {o : Options} {cs : List Char} {s : Scan} {ts : List Token}
    {text : List Char} (normal : normalizeLines cs = text)
    (scanned : Scan.run { tables := o.tables, notes := o.footnotes } {} 0 text = s)
    (body : blockTokens { env := s.env, strikethrough := o.strikethrough, notes := o.footnotes } o.taskLists
      s.blocks = ts) (no_notes : Token.noteKeys ts = []) : tokenize o cs = ⟨ts, s.env⟩ := by
  have none_left : ([] : List String).eraseDups = [] := rfl
  rw [tokenize, normal, scanned]
  dsimp only
  rw [body, no_notes, none_left, notesBlocks]
  rfl

section Document

/-- What the reading of a document without definitions depends on. -/
def bareContext (o : Options) : Inline.Context :=
  { env := {}, strikethrough := o.strikethrough, notes := o.footnotes }

/-- The tokens of the only paragraph of a document. -/
def lineTokens (o : Options) (line : List Char) : List Token := inlineTokens (bareContext o) (line ++ ['\n'])

theorem trimBy_around {p : Char → Bool} {front back : List Char} (before : ∀ c ∈ front, p c = true)
    (behind : ∀ c ∈ back, p c = true) (filled : line ≠ []) (start : ∀ c ∈ line.head?, p c = false)
    (stop : ∀ c ∈ line.getLast?, p c = false) : Text.trimBy p (front ++ line ++ back) = line := by
  have from_line : (front ++ line ++ back).dropWhile p = line ++ back := by
    rw [List.append_assoc]
    exact Json.dropWhile_append_of_stops before (by rwa [List.head?_append_of_ne_nil _ filled])
  have to_line : (line ++ back).reverse.dropWhile p = line.reverse := by
    rw [List.reverse_append]
    exact Json.dropWhile_append_of_stops (by simpa using behind) (by rwa [List.head?_reverse])
  rw [Text.trimBy, Text.trimStartBy, from_line, Text.trimEndBy, to_line, List.reverse_reverse]

/-- Spaces around a line are not read. -/
theorem lineTokens_around (o : Options) {front back : List Char} (before : ∀ c ∈ front, c = ' ')
    (behind : ∀ c ∈ back, c = ' ') (filled : line ≠ []) (start : ∀ c ∈ line.head?, ' ' < c)
    (stop : ∀ c ∈ line.getLast?, ' ' < c) :
    lineTokens o (front ++ line ++ back) = Inline.tokens (bareContext o) line := by
  have shown {c : Char} (high : ' ' < c) :
      (c = ' ' || c = '\r' || c = '\n' || c = '\t' || c = '\x0c') = false := by
    have other {d : Char} (low : d ≤ ' ') : c ≠ d := ne_of_shown high low
    simp [other (d := ' ') (by decide), other (d := '\r') (by decide), other (d := '\n') (by decide),
      other (d := '\t') (by decide), other (d := '\x0c') (by decide)]
  rw [lineTokens, inlineTokens, List.append_assoc _ back, trimBy_around _ _ filled]
  · exact fun c mem => shown (start c mem)
  · exact fun c mem => shown (stop c mem)
  · intro c mem
    simp [before c mem]
  · intro c mem
    rcases List.mem_append.1 mem with mem | mem
    · simp [behind c mem]
    · simp [List.mem_singleton.1 mem]

variable (ordinary : Ordinary line) (rules : Rules) (env : Environment) (depth : Nat)

include ordinary

/-- A line that is the definition of a link leaves this definition behind. -/
theorem run_definition {s : Scan} (definition : linkDefinition { ahead := line ++ ['\n'], env } = .read s)
    (whole : s.ahead = []) : Scan.run rules env depth (line ++ ['\n']) = s := by
  rw [Scan.run, Scan.fuel, scanBlocks, if_neg (by simp), if_pos rfl, attempt_ordinary ordinary rfl, definition]
  dsimp only
  rw [scanBlocks, whole]
  exact if_pos rfl

/-- A line that is none is a paragraph. -/
theorem run_paragraph (text : linkDefinition { ahead := line ++ ['\n'], env } = .absent) :
    Scan.run rules env depth (line ++ ['\n']) = { ahead := [], found := [.paragraph (line ++ ['\n'])], env } := by
  have taken := takeLine_of_feed ordinary.unbroken []
  have read : Scan.readText { ahead := line ++ ['\n'], env } =
      { ahead := [], found := [.paragraph (line ++ ['\n'])], env } := by
    simp [Scan.readText, Scan.readAs, Scan.addParagraph, lineWithEnd, afterLine, taken]
  rw [Scan.run, Scan.fuel, scanBlocks, if_neg (by simp), if_pos rfl, attempt_ordinary ordinary rfl, text]
  dsimp only
  rw [read, scanBlocks]
  exact if_pos rfl

theorem normalizeLines_ordinary : normalizeLines line = line ++ ['\n'] := by
  have kept : ∀ cs : List Char, (∀ c ∈ cs, c ≠ '\n' ∧ c ≠ '\r') → normalizeLines.go cs = cs := by
    intro cs plain
    induction cs with
    | nil => rw [normalizeLines.go]
    | cons c cs ih =>
        obtain ⟨here, later⟩ := List.forall_mem_cons.1 plain
        rw [normalizeLines.go, ih later]
        · exact fun _ carriage _ => here.2 carriage
        · exact here.2
  have open_end : line.getLast? ≠ some '\n' := fun feed => ordinary.unbroken (List.mem_of_getLast? feed)
  rw [normalizeLines, kept line ordinary.oneLine]
  exact if_neg (by simpa using open_end)

/-- No front matter is taken off. -/
theorem withoutFrontMatter_ordinary (o : Options) : withoutFrontMatter o line = .ok ⟨none, line, []⟩ := by
  have closed : FrontMatter.opens line = false := by
    obtain ⟨n, c, rest, few, rfl, shown, mark, -⟩ := ordinary.start
    have no_hyphen : c ≠ '-' := by
      rintro rfl
      exact mark (by decide)
    have no_start : Text.after? FrontMatter.fence (List.replicate n ' ' ++ c :: rest) = none := by
      cases n with
      | zero => simp [FrontMatter.fence, Text.after?, Ne.symm no_hyphen]
      | succ n => simp [FrontMatter.fence, Text.after?, List.replicate_succ]
    rw [FrontMatter.opens, no_start]
  have uncut : FrontMatter.cut? line = none := by
    rw [FrontMatter.cut?, closed]
    rfl
  rw [withoutFrontMatter, FrontMatter.extract, uncut]
  exact ite_self _

/-- A line that is no definition is parsed as a paragraph, whatever the options. -/
theorem parse_paragraph (o : Options) (text : linkDefinition { ahead := line ++ ['\n'] } = .absent)
    (no_notes : Token.noteKeys (lineTokens o line) = []) :
    parse o (String.ofList line) = .ok ⟨Build.root [Build.paragraph (phrases (lineTokens o line))] [],
      phraseDrops (lineTokens o line)⟩ := by
  have tokens : tokenize o line = ⟨[.parent .paragraph (lineTokens o line)], {}⟩ := by
    have scanned := run_paragraph ordinary { tables := o.tables, notes := o.footnotes } {} 0 text
    have read : blockTokens (bareContext o) o.taskLists [.paragraph (line ++ ['\n'])] =
        [.parent .paragraph (lineTokens o line)] := by
      rw [blockTokens, blockTokens, blockToken]
      rfl
    refine tokenize_of_run (normalizeLines_ordinary ordinary) scanned read ?_
    rw [Token.parent, Token.noteKeys, Token.noteKeys, List.append_nil]
    exact no_notes
  have taken := withoutFrontMatter_ordinary ordinary o
  refine parse_eq_ok_iff.2 ⟨⟨none, line, []⟩, by rw [String.toList_ofList, taken], ?_⟩
  have no_definitions : definitionNodes o {} = [] := by
    rw [definitionNodes]
    exact ite_self _
  have nodes : blocks [.parent .paragraph (lineTokens o line)] = [Build.paragraph (phrases (lineTokens o line))] := by
    rw [Token.parent, blocks, blocks, List.append_nil]
  have drops : blockDrops [.parent .paragraph (lineTokens o line)] = phraseDrops (lineTokens o line) := by
    rw [Token.parent, blockDrops, blockDrops, List.append_nil]
  rw [tokens, Document.treeOf, no_definitions, nodes, drops]
  rfl

/-- A line that is a definition is parsed as one, whatever the options. -/
theorem parse_definition (o : Options) {key : String} {d : Definition}
    (definition : linkDefinition { ahead := line ++ ['\n'] } =
      .read { ahead := [], env := { links := [(key, d)] } }) :
    parse o (String.ofList line) = .ok ⟨Build.root (if o.definitionNodes then [d.node key] else []) [], []⟩ := by
  have tokens : tokenize o line = ⟨[], { links := [(key, d)] }⟩ := by
    have scanned := run_definition ordinary { tables := o.tables, notes := o.footnotes } {} 0 definition rfl
    refine tokenize_of_run (normalizeLines_ordinary ordinary) scanned ?_ (by rw [Token.noteKeys])
    rw [Scan.blocks, List.reverse_nil, blockTokens]
  have taken := withoutFrontMatter_ordinary ordinary o
  refine parse_eq_ok_iff.2 ⟨⟨none, line, []⟩, by rw [String.toList_ofList, taken], ?_⟩
  rw [tokens, Document.treeOf, blocks, blockDrops]
  rfl

end Document

end Unmark.Markdown
