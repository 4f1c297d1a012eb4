import Mathlib
import Unmark.Proofs.TokenNodes

/-
Module: Unmark.Proofs.TokenText
Layer: Proofs
Purpose: What becomes of the text of tokens. Tokens that stand where the grammar puts them lose no text on
  their way through the tree to the output, gain none, and keep its order: the literal fragments of the
  rendering come to the texts of the tokens in the order of the source. All other fragments are the marks
  of links and of struck-out text, in the order of the tokens that ask for them, and separators.
Main exports: Place, Token.placed, Token.textAll, Token.marksAll, Reading, read_blocks, render_blocks
-/

namespace Unmark.Markdown

open Node PlainText

/-! ### Tokens in their places -/

/-- Where a list of tokens stands. -/
inductive Place where
  | blocks | phrases | sections | bodyRows | cells | notes | nothing
deriving DecidableEq, Repr, Inhabited

/-- The place that a token of some type makes for the tokens below it; there is none when the token is out
    of place itself. -/
def Place.below : Place → TokenType → Option Place
  | .blocks, .paragraph | .blocks, .blockText | .blocks, .heading => some .phrases
  | .blocks, .blockQuote | .blocks, .list | .blocks, .listItem | .blocks, .taskListItem => some .blocks
  | .blocks, .table => some .sections
  | .blocks, .footnotes => some .notes
  | .blocks, .blockCode | .blocks, .thematicBreak | .blocks, .blockHtml | .blocks, .blankLine =>
    some .nothing
  | .sections, .tableHead => some .cells
  | .sections, .tableBody => some .bodyRows
  | .bodyRows, .tableRow => some .cells
  | .cells, .tableCell => some .phrases
  | .notes, .footnoteItem => some .blocks
  | .phrases, .strong | .phrases, .emphasis | .phrases, .strikethrough | .phrases, .link
  | .phrases, .image => some .phrases
  | .phrases, .text | .phrases, .softBreak | .phrases, .lineBreak | .phrases, .codeSpan
  | .phrases, .inlineHtml | .phrases, .footnoteRef => some .nothing
  | _, _ => none

namespace Token

/-- Every token of a list stands where the grammar puts tokens of its type, at every depth. -/
def placed (place : Place) : List Token → Bool
  | [] => true
  | .mk t _ _ _ _ cs :: ts =>
    (match place.below t with
      | some inner => placed inner cs
      | none => false) && placed place ts

/-! ### What tokens say -/

/-- A text without one line end at its end. -/
def withoutLineEnd (cs : List Char) : List Char :=
  if ['\r', '\n'] <:+ cs then cs.take (cs.length - 2)
  else if ['\n'] <:+ cs then cs.take (cs.length - 1)
  else cs

/-- The text that a token says by itself. -/
def ownText (t : TokenType) (raw : String) : String :=
  match t with
  | .text => Entity.decode raw
  | .softBreak => "\n"
  | .codeSpan => raw
  | .blockCode => String.ofList (withoutLineEnd raw.toList)
  | _ => ""

/-- The texts of all tokens, in the order of the source. What stands below an image says nothing. -/
def textAll : List Token → List Char
  | [] => []
  | .mk t raw _ _ _ cs :: ts =>
    (ownText t (raw.getD "")).toList ++ (if t = .image then [] else textAll cs) ++ textAll ts

/-- The marks that all tokens ask for, in the order of the source: those around links that carry their
    target themselves, and those around struck-out text. -/
def marksAll (o : PlainText.Options) : List Token → List String
  | [] => []
  | .mk t _ attrs reference _ cs :: ts =>
    (match t with
      | .link =>
        if reference.isSome then marksAll o cs
        else "[" :: marksAll o cs ++ ["]", "(", (urlOf (attrs.get? "url")).getD "", ")"]
      | .strikethrough => "(" :: o.strikethroughPhrase :: marksAll o cs ++ [")"]
      | .image => []
      | _ => marksAll o cs) ++ marksAll o ts

/-- All that tokens ask for, in the order of the source. -/
def pieces (o : PlainText.Options) : List Token → List Fragment
  | [] => []
  | .mk t raw attrs reference _ cs :: ts =>
    (match t with
      | .link =>
        if reference.isSome then pieces o cs
        else ⟨.mark, "["⟩ :: pieces o cs
          ++ [⟨.mark, "]"⟩, ⟨.mark, "("⟩, ⟨.mark, (urlOf (attrs.get? "url")).getD ""⟩, ⟨.mark, ")"⟩]
      | .strikethrough =>
        ⟨.mark, "("⟩ :: ⟨.mark, o.strikethroughPhrase⟩ :: pieces o cs ++ [⟨.mark, ")"⟩]
      | .image => []
      | t => ⟨.literal, ownText t (raw.getD "")⟩ :: pieces o cs) ++ pieces o ts

end Token

/-- The source of a code block loses the line end at its end and nothing else. -/
theorem codeText_eq_withoutLineEnd (cs : List Char) : codeText cs = Token.withoutLineEnd cs := by
  rw [codeText, Token.withoutLineEnd]
  by_cases both : ['\r', '\n'] <:+ cs
  · obtain ⟨front, rfl⟩ := both
    simp
  · rw [if_neg both]
    by_cases feed : ['\n'] <:+ cs
    · obtain ⟨front, rfl⟩ := feed
      rw [List.reverse_append, List.reverse_singleton, List.singleton_append]
      split
      · next rest end_eq =>
          have ends : front = rest.reverse ++ ['\r'] := by
            rw [← List.reverse_reverse front, (List.cons_eq_cons.1 end_eq).2, List.reverse_cons]
          exact absurd ⟨rest.reverse, by simp [ends]⟩ both
      · next rest _ end_eq => simp [← (List.cons_eq_cons.1 end_eq).2]
      · next other => exact absurd rfl (other _)
    · rw [if_neg feed]
      have last : ∀ rest, cs.reverse ≠ '\n' :: rest := by
        intro rest end_eq
        exact feed ⟨rest.reverse, by rw [← List.reverse_cons, ← end_eq, List.reverse_reverse]⟩
      split
      · next end_eq => exact absurd end_eq (last _)
      · next end_eq => exact absurd end_eq (last _)
      · rfl

/-! ### Readings of fragments -/

/-- A way to read fragments that passes over separators, and for which it makes no difference into how many
    fragments a literal text is cut. -/
structure Reading (α : Type) where
  read : Fragment → List α
  separator : ∀ s, read ⟨.separator, s⟩ = []
  literal_append : ∀ s s', read ⟨.literal, s ++ s'⟩ = read ⟨.literal, s⟩ ++ read ⟨.literal, s'⟩

namespace Reading

variable {α : Type} (r : Reading α) (o : PlainText.Options)

theorem literal_empty : r.read ⟨.literal, ""⟩ = [] := by
  have twice := r.literal_append "" ""
  rw [String.append_empty] at twice
  simpa using twice

/-- What is read off a node. -/
def node (n : Node) : List α := (textOf o n).flatMap r.read

/-- What is read off the nodes of a list, one after the other. -/
def nodes (ns : List Node) : List α := ns.flatMap (r.node o)

@[simp] theorem nodes_nil : r.nodes o [] = [] := rfl

@[simp] theorem nodes_cons (n : Node) (ns : List Node) :
    r.nodes o (n :: ns) = r.node o n ++ r.nodes o ns := rfl

@[simp] theorem nodes_append (ns ns' : List Node) :
    r.nodes o (ns ++ ns') = r.nodes o ns ++ r.nodes o ns' := List.flatMap_append

/-- Gaps are passed over, so neither the parent nor a neighbour matters. -/
@[simp] theorem flatMap_bodyFrom (parent : Kind) (left : Option Kind) (ns : List Node) :
    (bodyFrom o parent left ns).flatMap r.read = r.nodes o ns := by
  induction ns generalizing left with
  | nil => rw [bodyFrom, nodes_nil, List.flatMap_nil]
  | cons n ns ih =>
      have passed : (gapAfter o parent left n.kind).flatMap r.read = [] := by
        cases left with
        | none => rfl
        | some l =>
            rw [gapAfter, gap]
            split
            · simp [r.separator]
            · rfl
      rw [bodyFrom, List.flatMap_append, List.flatMap_append, passed, ih]
      rfl

/-- What is read off a node: its literal text, or its marks around what is read off its children. -/
theorem node_build (t : Tag) (p : Payload) (cs : List Node) :
    r.node o (Build.node t p cs) =
      match t with
      | .text | .inlineCode | .code => r.read ⟨.literal, p.value.getD ""⟩ ++ r.nodes o cs
      | .link =>
        r.read ⟨.mark, "["⟩ ++ r.nodes o cs ++ r.read ⟨.mark, "]"⟩ ++ r.read ⟨.mark, "("⟩
          ++ r.read ⟨.mark, p.url.getD ""⟩ ++ r.read ⟨.mark, ")"⟩
      | .strikethrough =>
        r.read ⟨.mark, "("⟩ ++ r.read ⟨.mark, o.strikethroughPhrase⟩ ++ r.nodes o cs
          ++ r.read ⟨.mark, ")"⟩
      | _ => r.nodes o cs := by
  cases t <;> simp [node, Build.node, textOf]

end Reading

/-! ### Reading the nodes of tokens -/

section ReadTokens

variable {α : Type} (r : Reading α) (o : PlainText.Options)

/-- What is read off the pieces of tokens. -/
def readPieces (ts : List Token) : List α := (Token.pieces o ts).flatMap r.read

@[simp] theorem readPieces_nil : readPieces r o [] = [] := by
  rw [readPieces, Token.pieces, List.flatMap_nil]

/-- What is read off the pieces of a token and of those that follow it. -/
theorem readPieces_cons (t raw attrs reference label cs ts) :
    readPieces r o (.mk t raw attrs reference label cs :: ts) =
      (match t with
        | .link =>
          if reference.isSome then readPieces r o cs
          else r.read ⟨.mark, "["⟩ ++ readPieces r o cs ++ r.read ⟨.mark, "]"⟩ ++ r.read ⟨.mark, "("⟩
            ++ r.read ⟨.mark, (urlOf (attrs.get? "url")).getD ""⟩ ++ r.read ⟨.mark, ")"⟩
        | .strikethrough =>
          r.read ⟨.mark, "("⟩ ++ r.read ⟨.mark, o.strikethroughPhrase⟩ ++ readPieces r o cs
            ++ r.read ⟨.mark, ")"⟩
        | .image => []
        | t => r.read ⟨.literal, Token.ownText t (raw.getD "")⟩ ++ readPieces r o cs)
        ++ readPieces r o ts := by
  cases t
  case link => cases reference <;> simp [readPieces, Token.pieces]
  all_goals simp [readPieces, Token.pieces]

theorem placed_cons {place : Place} {t raw attrs reference label cs ts}
    (placed : Token.placed place (.mk t raw attrs reference label cs :: ts)) :
    (∃ inner, place.below t = some inner ∧ Token.placed inner cs) ∧ Token.placed place ts := by
  rw [Token.placed, Bool.and_eq_true] at placed
  refine ⟨?_, placed.2⟩
  cases below : place.below t with
  | none => simp [below] at placed
  | some inner => exact ⟨inner, rfl, by simpa [below] using placed.1⟩

/-- No token stands in the place below a token that has no tokens below it. -/
theorem eq_nil_of_placed_nothing {ts : List Token} (placed : Token.placed .nothing ts) : ts = [] := by
  cases ts with
  | nil => rfl
  | cons t ts =>
      obtain ⟨t, raw, attrs, reference, label, cs⟩ := t
      obtain ⟨⟨inner, below, _⟩, _⟩ := placed_cons placed
      simp [Place.below] at below

theorem nodes_release (run : Option String) :
    r.nodes o (release run) = r.read ⟨.literal, run.getD ""⟩ := by
  cases run with
  | none => exact r.literal_empty.symm
  | some s =>
      rw [release, Reading.nodes_cons, Build.text, Reading.node_build, Reading.nodes_nil]
      simp

/-- What is read off the nodes of inline tokens is what is read off the run in front of them and then off
    their pieces. -/
theorem nodes_phrasesFrom : ∀ (run : Option String) (ts : List Token), Token.placed .phrases ts →
    r.nodes o (phrasesFrom run ts) = r.read ⟨.literal, run.getD ""⟩ ++ readPieces r o ts
  | run, [], _ => by
      rw [phrasesFrom, nodes_release]
      simp
  | run, .mk t raw attrs reference label cs :: ts, placed => by
      obtain ⟨⟨inner, below, children⟩, rest⟩ := placed_cons placed
      have after := fun run' => nodes_phrasesFrom run' ts rest
      -- A run that goes on, and a run that ends in front of a node.
      have longer : ∀ s, r.nodes o (phrasesFrom (extend run s) ts) =
          r.read ⟨.literal, run.getD ""⟩ ++ (r.read ⟨.literal, s⟩ ++ readPieces r o ts) := by
        intro s
        rw [after, extend, Option.getD_some, r.literal_append, List.append_assoc]
      have ended : ∀ n, r.nodes o (release run ++ n :: phrasesFrom none ts) =
          r.read ⟨.literal, run.getD ""⟩ ++ (r.node o n ++ readPieces r o ts) := by
        intro n
        rw [Reading.nodes_append, Reading.nodes_cons, nodes_release, after none, Option.getD_none,
          r.literal_empty, List.nil_append]
      cases t <;> simp only [Place.below, reduceCtorEq, Option.some.injEq] at below <;> subst below
      case text | softBreak =>
        rw [eq_nil_of_placed_nothing children, phrasesFrom, longer]
        simp [readPieces_cons, Token.ownText]
      case lineBreak | codeSpan | inlineHtml | footnoteRef =>
        rw [eq_nil_of_placed_nothing children, phrasesFrom, ended]
        simp [Build.lineBreak, Build.inlineCode, Build.rawHtml, Build.footnoteReference,
          Reading.node_build, readPieces_cons, Token.ownText, r.literal_empty]
      case strong | emphasis | strikethrough =>
        have inside := nodes_phrasesFrom none cs children
        rw [Option.getD_none, r.literal_empty, List.nil_append] at inside
        rw [phrasesFrom, ended]
        simp [Build.strong, Build.emphasis, Build.strikethrough, Reading.node_build, inside,
          readPieces_cons, Token.ownText, r.literal_empty]
      case link =>
        have inside := nodes_phrasesFrom none cs children
        rw [Option.getD_none, r.literal_empty, List.nil_append] at inside
        cases reference <;>
          rw [phrasesFrom, ended] <;>
          simp [Build.link, Build.linkReference, Reading.node_build, inside, readPieces_cons]
      case image =>
        cases reference <;>
          rw [phrasesFrom, ended] <;>
          simp [Build.image, Build.imageReference, Reading.node_build, readPieces_cons]

theorem nodes_phrases {ts : List Token} (placed : Token.placed .phrases ts) :
    r.nodes o (phrases ts) = readPieces r o ts := by
  rw [phrases, nodes_phrasesFrom r o none ts placed, Option.getD_none, r.literal_empty, List.nil_append]

/-- The cells of a row read as their tokens. -/
theorem nodes_cells : ∀ ts : List Token, Token.placed .cells ts →
    r.nodes o (cells ts) = readPieces r o ts
  | [], _ => by simp [cells]
  | .mk t raw attrs reference label cs :: ts, placed => by
      obtain ⟨⟨inner, below, children⟩, rest⟩ := placed_cons placed
      have after := nodes_cells ts rest
      cases t <;> simp only [Place.below, reduceCtorEq, Option.some.injEq] at below
      subst below
      have inside := nodes_phrases r o children
      simp [cells, Build.tableCell, Reading.node_build, inside, after, readPieces_cons,
        Token.ownText, r.literal_empty]

/-- The rows of a table body read as their tokens. -/
theorem nodes_bodyRows : ∀ ts : List Token, Token.placed .bodyRows ts →
    r.nodes o (bodyRows ts) = readPieces r o ts
  | [], _ => by simp [bodyRows]
  | .mk t raw attrs reference label cs :: ts, placed => by
      obtain ⟨⟨inner, below, children⟩, rest⟩ := placed_cons placed
      have after := nodes_bodyRows ts rest
      cases t <;> simp only [Place.below, reduceCtorEq, Option.some.injEq] at below
      subst below
      have inside := nodes_cells r o cs children
      simp [bodyRows, Build.tableRow, Reading.node_build, inside, after, readPieces_cons,
        Token.ownText, r.literal_empty]

/-- The rows of a table read as their tokens. -/
theorem nodes_rows : ∀ ts : List Token, Token.placed .sections ts →
    r.nodes o (rows ts) = readPieces r o ts
  | [], _ => by simp [rows]
  | .mk t raw attrs reference label cs :: ts, placed => by
      obtain ⟨⟨inner, below, children⟩, rest⟩ := placed_cons placed
      have after := nodes_rows ts rest
      cases t <;> simp only [Place.below, reduceCtorEq, Option.some.injEq] at below <;> subst below
      case tableHead =>
        have inside := nodes_cells r o cs children
        simp [rows, Build.tableRow, Reading.node_build, inside, after, readPieces_cons,
          Token.ownText, r.literal_empty]
      case tableBody =>
        have inside := nodes_bodyRows r o cs children
        simp [rows, inside, after, readPieces_cons, Token.ownText, r.literal_empty]

mutual

/-- The nodes of block tokens read as their tokens. -/
theorem nodes_blocks : ∀ ts : List Token, Token.placed .blocks ts →
    r.nodes o (blocks ts) = readPieces r o ts
  | [], _ => by simp [blocks]
  | .mk t raw attrs reference label cs :: ts, placed => by
      obtain ⟨⟨inner, below, children⟩, rest⟩ := placed_cons placed
      have after := nodes_blocks ts rest
      cases t <;> simp only [Place.below, reduceCtorEq, Option.some.injEq] at below <;> subst below
      case paragraph | blockText | heading =>
        have inside := nodes_phrases r o children
        simp [blocks, Build.paragraph, Build.heading, Reading.node_build, inside, after, readPieces_cons,
          Token.ownText, r.literal_empty]
      case blockQuote | list | listItem | taskListItem =>
        have inside := nodes_blocks cs children
        simp [blocks, Build.blockquote, Build.list, Build.listItem, Reading.node_build, inside, after,
          readPieces_cons, Token.ownText, r.literal_empty]
      case blockCode =>
        rw [eq_nil_of_placed_nothing children]
        simp [blocks, Build.code, Reading.node_build, after, readPieces_cons, Token.ownText,
          codeText_eq_withoutLineEnd]
      case thematicBreak | blockHtml | blankLine =>
        rw [eq_nil_of_placed_nothing children]
        simp [blocks, Build.thematicBreak, Build.rawHtml, Reading.node_build, after, readPieces_cons,
          Token.ownText, r.literal_empty]
      case table =>
        have inside := nodes_rows r o cs children
        simp [blocks, Build.table, Reading.node_build, inside, after, readPieces_cons,
          Token.ownText, r.literal_empty]
      case footnotes =>
        have inside := nodes_footnoteItems cs children
        simp [blocks, inside, after, readPieces_cons, Token.ownText, r.literal_empty]

/-- The definitions of a footnote section read as their tokens. -/
theorem nodes_footnoteItems : ∀ ts : List Token, Token.placed .notes ts →
    r.nodes o (footnoteItems ts) = readPieces r o ts
  | [], _ => by simp [footnoteItems]
  | .mk t raw attrs reference label cs :: ts, placed => by
      obtain ⟨⟨inner, below, children⟩, rest⟩ := placed_cons placed
      have after := nodes_footnoteItems ts rest
      cases t <;> simp only [Place.below, reduceCtorEq, Option.some.injEq] at below
      subst below
      have inside := nodes_blocks cs children
      simp [footnoteItems, Build.footnoteDefinition, Reading.node_build, inside, after, readPieces_cons,
        Token.ownText, r.literal_empty]

end

end ReadTokens

/-! ### Texts and marks -/

/-- The reading of the literal text. -/
def Reading.literals : Reading Char where
  read f := if f.role = .literal then f.text.toList else []
  separator _ := rfl
  literal_append s s' := by simp

/-- The reading of the marks. -/
def Reading.marks : Reading String where
  read f := if f.role = .mark then [f.text] else []
  separator _ := rfl
  literal_append _ _ := rfl

@[simp] theorem Reading.literals_literal (s : String) : literals.read ⟨.literal, s⟩ = s.toList := rfl

@[simp] theorem Reading.literals_mark (s : String) : literals.read ⟨.mark, s⟩ = [] := rfl

@[simp] theorem Reading.marks_literal (s : String) : marks.read ⟨.literal, s⟩ = [] := rfl

@[simp] theorem Reading.marks_mark (s : String) : marks.read ⟨.mark, s⟩ = [s] := rfl

/-- The literal text among fragments. -/
def literalText (fs : List Fragment) : String :=
  String.join ((fs.filter fun f => f.role = .literal).map Fragment.text)

/-- The marks among fragments. -/
def markTexts (fs : List Fragment) : List String := (fs.filter fun f => f.role = .mark).map Fragment.text

theorem flatMap_literals (fs : List Fragment) :
    fs.flatMap Reading.literals.read = (literalText fs).toList := by
  rw [literalText, String.toList_join, List.flatMap_map]
  induction fs with
  | nil => rfl
  | cons f fs ih =>
      rw [List.flatMap_cons, ih]
      by_cases literal : f.role = .literal <;> simp [Reading.literals, literal]

theorem flatMap_marks (fs : List Fragment) : fs.flatMap Reading.marks.read = markTexts fs := by
  induction fs with
  | nil => rfl
  | cons f fs ih =>
      rw [List.flatMap_cons, ih]
      by_cases mark : f.role = .mark <;> simp [Reading.marks, markTexts, mark]

/-- The literal text of the pieces of tokens is the text of the tokens. -/
theorem readPieces_literals (o : PlainText.Options) : ∀ ts : List Token,
    readPieces Reading.literals o ts = Token.textAll ts
  | [] => by rw [readPieces_nil, Token.textAll]
  | .mk t raw attrs reference label cs :: ts => by
      have inside := readPieces_literals o cs
      have after := readPieces_literals o ts
      rw [readPieces_cons, Token.textAll, after]
      cases t <;> simp [Token.ownText, inside]

/-- The marks among the pieces of tokens are those that the tokens ask for. -/
theorem readPieces_marks (o : PlainText.Options) : ∀ ts : List Token,
    readPieces Reading.marks o ts = Token.marksAll o ts
  | [] => by rw [readPieces_nil, Token.marksAll]
  | .mk t raw attrs reference label cs :: ts => by
      have inside := readPieces_marks o cs
      have after := readPieces_marks o ts
      rw [readPieces_cons, after]
      cases t <;> simp [Token.marksAll, inside]

/-- A node writes no separators of its own inside its text. -/
theorem filter_separator_textOf (o : PlainText.Options) (k : Kind) (p : Payload) (m : Entries)
    (cs : List Node) :
    (textOf o (.mk k p m cs)).filter (fun f => f.role = .separator) =
      (bodyFrom o k none cs).filter fun f => f.role = .separator := by
  cases k with
  | foreign name fresh => simp [textOf]
  | tag t => cases t <;> simp [textOf]

mutual

/-- The separators within a node are those that the options ask for. -/
theorem separator_textOf (o : PlainText.Options) : ∀ (n : Node), ∀ f ∈ textOf o n,
    f.role = .separator → f.text = o.blockSeparator
  | .mk k p m cs, f, mem, role => by
      have kept : f ∈ (textOf o (.mk k p m cs)).filter fun f => f.role = .separator :=
        List.mem_filter.2 ⟨mem, decide_eq_true role⟩
      rw [filter_separator_textOf] at kept
      exact separator_bodyFrom o k none cs f (List.mem_filter.1 kept).1 role

/-- The same for the children of one parent. -/
theorem separator_bodyFrom (o : PlainText.Options) (parent : Kind) :
    ∀ (left : Option Kind) (cs : List Node), ∀ f ∈ bodyFrom o parent left cs,
      f.role = .separator → f.text = o.blockSeparator
  | _, [], f, mem, _ => by simp [bodyFrom] at mem
  | left, c :: cs, f, mem, role => by
      simp only [bodyFrom, List.mem_append] at mem
      rcases mem with (mem | mem) | mem
      · cases left with
        | none => simp [gapAfter] at mem
        | some l =>
            simp only [gapAfter, gap, List.mem_ite_nil_right, List.mem_singleton] at mem
            rw [mem.2]
      · exact separator_textOf o c f mem role
      · exact separator_bodyFrom o parent (some c.kind) cs f mem role

end

/-- Tokens in their places are rendered to the end. The literal fragments come to the texts of the tokens
    in the order of the source; all others are the marks that the tokens ask for, in their order, and
    separators. -/
theorem render_blocks (o : PlainText.Options) (ts : List Token) (metadata : Fields)
    (placed : Token.placed .blocks ts) (urls : Token.Every Token.UrlIsText ts) :
    let fs := fragments o (Build.root (blocks ts) metadata)
    (render o (Build.root (blocks ts) metadata)).text = .ok (String.join (fs.map Fragment.text)) ∧
      literalText fs = String.ofList (Token.textAll ts) ∧
      markTexts fs = Token.marksAll o ts ∧
      ∀ f ∈ fs, f.role = .separator → f.text = o.blockSeparator := by
  have printable := printable_blocks urls
  have complete : firstDefect (Build.root (blocks ts) metadata) = none :=
    (defectIn_eq_none_iff _).2 (EveryIn.imp (fun _ fine => fine.2) _ printable)
  obtain ⟨text, written⟩ := fragments_of_complete o complete
  have read : ∀ {α} (r : Reading α),
      (fragments o (Build.root (blocks ts) metadata)).flatMap r.read = readPieces r o ts := by
    intro α r
    rw [written, body, Reading.flatMap_bodyFrom]
    exact nodes_blocks r o ts placed
  refine ⟨text, ?_, ?_, ?_⟩
  · rw [← readPieces_literals o, ← read, flatMap_literals, String.ofList_toList]
  · rw [← readPieces_marks o, ← read, flatMap_marks]
  · rw [written]
    exact separator_bodyFrom o _ none _

/-- A quotation with a struck-out phrase, a link, an image and a character reference in it, a code block, a
    table and a footnote. -/
def mixedBlocks : List Token :=
  [.parent .blockQuote
    [.parent .paragraph
      [.leaf .text "a &#60; b", .leaf .softBreak "\n", .parent .strikethrough [.leaf .codeSpan "c"],
       .mk .link none [("url", .str "/d")] none none [.leaf .text "e"],
       .mk .image none [("url", .str "/f")] none none [.leaf .text "g"]]],
   .leaf .blockCode "h\r\n",
   .parent .table
    [.parent .tableHead [.parent .tableCell [.leaf .text "i"]],
     .parent .tableBody [.parent .tableRow [.parent .tableCell [.leaf .text "j"]]]],
   .parent .footnotes [.parent .footnoteItem [.parent .paragraph [.leaf .text "k"]]]]

/-- They are rendered to the end, with the text of every token but the one below the image. -/
theorem render_mixedBlocks :
    literalText (fragments {} (Build.root (blocks mixedBlocks) [])) = "a < b\ncehijk" ∧
      markTexts (fragments {} (Build.root (blocks mixedBlocks) [])) =
        ["(", "strikethrough: ", ")", "[", "]", "(", "/d", ")"] := by
  have urls : Token.Every Token.UrlIsText mixedBlocks := by
    simp [mixedBlocks, Token.parent, Token.leaf, Token.UrlIsText, Fields.get?, Token.attrs, Token.children]
  obtain ⟨-, literal, marks, -⟩ := render_blocks {} mixedBlocks [] (by cbv) urls
  exact ⟨literal.trans (by cbv), marks.trans (by cbv)⟩

end Unmark.Markdown
