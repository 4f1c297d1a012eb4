import Mathlib.Data.List.DropRight
import Mathlib.Data.List.TakeWhile
import Mathlib.Tactic.SplitIfs
import Unmark.Markdown.Grammar
import Unmark.Markdown.TokenTree
import Unmark.Proofs.SelfSpelled

/-
Module: Unmark.Proofs.EscapedText
Layer: Proofs
Purpose: Texts with a backslash in front of every punctuation mark. In a title the escapes are removed before
  anything else, so the title comes to the text with its character references replaced. In a line each run of
  escaped marks is a token of its own; no reference stands within such a token nor within the text around it,
  so the tokens come to the text itself.
Main exports: escaped, unescape_escaped, titleBody?_escaped, Inline.tokens_escaped, Inline.phrases_leavesOf
-/

namespace Unmark.Markdown

open Text (isAsciiPunctuation)

/-! ### Escapes -/

/-- A character with a backslash in front of it if it is a mark or symbol of ASCII. -/
def escapeChar (c : Char) : List Char := if isAsciiPunctuation c then ['\\', c] else [c]

/-- A text with all its marks and symbols of ASCII escaped. -/
def escaped (t : List Char) : List Char := t.flatMap escapeChar

variable {c : Char} {t u : List Char}

@[simp] theorem escaped_nil : escaped [] = [] := rfl

theorem escaped_cons_mark (mark : isAsciiPunctuation c = true) (t : List Char) :
    escaped (c :: t) = '\\' :: c :: escaped t := by
  rw [escaped, List.flatMap_cons, escapeChar, if_pos mark]
  rfl

theorem escaped_cons_plain (plain : isAsciiPunctuation c = false) (t : List Char) :
    escaped (c :: t) = c :: escaped t := by
  rw [escaped, List.flatMap_cons, escapeChar, if_neg (by rw [plain]; decide)]
  rfl

theorem escaped_append (t u : List Char) : escaped (t ++ u) = escaped t ++ escaped u := List.flatMap_append

theorem escaped_eq_nil_iff : escaped t = [] ↔ t = [] := by
  cases t with
  | nil => simp
  | cons c t => cases mark : isAsciiPunctuation c <;> simp [escaped_cons_mark, escaped_cons_plain, mark]

/-- An escaped text holds the characters of the text and backslashes. -/
theorem mem_or_eq_of_mem_escaped (mem : c ∈ escaped t) : c ∈ t ∨ c = '\\' := by
  obtain ⟨d, within, here⟩ := List.mem_flatMap.1 mem
  rw [escapeChar] at here
  split_ifs at here
  · rcases List.mem_cons.1 here with rfl | here
    · exact .inr rfl
    · exact .inl (List.mem_singleton.1 here ▸ within)
  · exact .inl (List.mem_singleton.1 here ▸ within)

theorem not_mem_escaped (absent : c ∉ t) (visible : c ≠ '\\') : c ∉ escaped t :=
  fun mem => (mem_or_eq_of_mem_escaped mem).elim absent visible

theorem escaped_of_plain (plain : ∀ c ∈ t, isAsciiPunctuation c = false) : escaped t = t := by
  induction t with
  | nil => rfl
  | cons c t ih =>
      rw [List.forall_mem_cons] at plain
      rw [escaped_cons_plain plain.1, ih plain.2]

/-- An escaped text starts with a backslash, or as the text does and then with no mark. -/
theorem head?_escaped (start : c ∈ (escaped t).head?) :
    c = '\\' ∨ c ∈ t.head? ∧ isAsciiPunctuation c = false := by
  cases t with
  | nil => cases start
  | cons d t =>
      cases mark : isAsciiPunctuation d with
      | true =>
          rw [escaped_cons_mark mark] at start
          exact .inl (Option.some.inj start).symm
      | false =>
          rw [escaped_cons_plain mark] at start
          obtain rfl := Option.some.inj start
          exact .inr ⟨rfl, mark⟩

/-- An escaped text ends as the text does. -/
theorem getLast?_escaped (t : List Char) : (escaped t).getLast? = t.getLast? := by
  rcases List.eq_nil_or_concat' t with rfl | ⟨init, c, rfl⟩
  · rfl
  · have last : (escapeChar c).getLast? = some c := by
      rw [escapeChar]
      split_ifs <;> rfl
    have single : escaped [c] = escapeChar c := List.append_nil _
    rw [escaped_append, single, List.getLast?_append, last, List.getLast?_concat]
    rfl

/-- A character that is no mark is not one of the marks. -/
theorem ne_of_plain (plain : isAsciiPunctuation c = false) {d : Char} (mark : isAsciiPunctuation d = true) :
    c ≠ d := by
  rintro rfl
  rw [plain] at mark
  cases mark

/-- The escapes of a text are removed again. -/
theorem unescape_escaped (t : List Char) : unescape (escaped t) = t := by
  induction t with
  | nil => rw [escaped_nil, unescape]
  | cons c t ih =>
      cases mark : isAsciiPunctuation c with
      | true => rw [escaped_cons_mark mark, unescape, if_pos mark, ih]
      | false =>
          rw [escaped_cons_plain mark]
          cases back : escaped t with
          | nil =>
              rw [escaped_eq_nil_iff.1 back, unescape]
          | cons d ds =>
              rw [unescape]
              · rw [← back, ih]
              · exact ne_of_plain mark rfl

/-- A title is read up to its closing mark, which is not taken for one where it is escaped. -/
theorem titleBody?_escaped {barred : List Char} {close : Char} (mark : isAsciiPunctuation close = true)
    (visible : close ≠ '\\') (allowed : ∀ c ∈ t, c ∉ barred) (rest : List Char) :
    titleBody? barred close (escaped t ++ close :: rest) = some (escaped t, rest) := by
  induction t with
  | nil =>
      rw [escaped_nil, List.nil_append, titleBody?, if_pos rfl]
      exact fun _ _ back _ => visible back
  | cons c t ih =>
      rw [List.forall_mem_cons] at allowed
      have later := ih allowed.2
      cases here : isAsciiPunctuation c with
      | true =>
          rw [escaped_cons_mark here, List.cons_append, List.cons_append, titleBody?, if_pos here, later]
      | false =>
          rw [escaped_cons_plain here, List.cons_append, titleBody?]
          · have other := ne_of_plain here mark
            simp [other, allowed.1, later]
          · exact fun _ _ back _ => ne_of_plain here rfl back

/-! ### Runs of marks -/

/-- The marks at the start of a text. -/
abbrev marksOf (t : List Char) : List Char := t.takeWhile isAsciiPunctuation

/-- What follows the marks at the start of a text. -/
abbrev afterMarks (t : List Char) : List Char := t.dropWhile isAsciiPunctuation

/-- Escaped marks in a row are read together. -/
theorem Inline.escapes_escaped (t : List Char) :
    Inline.escapes (escaped t) = (marksOf t, escaped (afterMarks t)) := by
  induction t with
  | nil => rw [escaped_nil, Inline.escapes] <;> simp
  | cons c t ih =>
      cases mark : isAsciiPunctuation c with
      | true =>
          rw [escaped_cons_mark mark, Inline.escapes, if_pos mark, ih]
          simp [marksOf, afterMarks, mark]
      | false =>
          rw [escaped_cons_plain mark, Inline.escapes]
          · simp [marksOf, afterMarks, mark, escaped_cons_plain]
          · exact fun _ _ back => ne_of_plain mark (d := '\\') rfl (List.cons_eq_cons.1 back).1

/-! ### The scan of a line -/

namespace Inline

variable {ctx : Context} {line : Line} {before : Char} {text : List Char} {fuel : Nat}

theorem lineBreak?_of_no_feed {cs : List Char} (unbroken : '\n' ∉ cs) : lineBreak? cs = none := by
  unfold lineBreak?
  split
  · simp at unbroken
  · dsimp only
    split
    · next rest feed =>
        have mem : '\n' ∈ cs.drop (cs.takeWhile (· = ' ')).length := feed ▸ List.mem_cons_self
        exact absurd (List.mem_of_mem_drop mem) unbroken
    · rfl

/-- A plain character starts no item, if no line ends behind it. -/
theorem item?_plain (plain : isAsciiPunctuation c = false) {rest : List Char} (unbroken : '\n' ∉ c :: rest) :
    item? fuel ctx line before c rest = none := by
  cases fuel with
  | zero => rw [item?]
  | succ fuel =>
      unfold item?
      split
      case h_2 =>
        rw [lineBreak?_of_no_feed unbroken]
        rfl
      case h_3 => simp at unbroken
      case h_12 => rfl
      -- Every other construct starts with a mark.
      all_goals exact absurd plain (by decide)

theorem item?_escaped (mark : isAsciiPunctuation c = true) (t : List Char) :
    item? (fuel + 1) ctx line before '\\' (c :: escaped t) =
      some (.token (.leaf .text (String.ofList (marksOf (c :: t)))), escaped (afterMarks (c :: t))) := by
  have run := escapes_escaped (c :: t)
  rw [escaped_cons_mark mark] at run
  have some_mark : marksOf (c :: t) = c :: marksOf t := by simp [marksOf, mark]
  rw [item?]
  simp only [run, some_mark, Option.map_some]

theorem push_push (line : Line) (ps qs : List Piece) : (line.push ps).push qs = line.push (qs ++ ps) := by
  unfold Line.push
  cases line.brackets <;> simp

/-- Runs of text that hold no reference, as pieces of a line. -/
structure Literal (runs : List (List Char)) (t : List Char) : Prop where
  spelled : ∀ r ∈ runs, Entity.SelfSpelled r ∧ r ≠ []
  whole : runs.flatten = t

theorem literal_nil : Literal [] [] := ⟨by simp, rfl⟩

theorem Literal.append {runs runs' : List (List Char)} (first : Literal runs t) (second : Literal runs' u) :
    Literal (runs ++ runs') (t ++ u) := by
  refine ⟨List.forall_mem_append.2 ⟨first.spelled, second.spelled⟩, ?_⟩
  rw [List.flatten_append, first.whole, second.whole]

theorem literal_singleton (spelled : Entity.SelfSpelled t) (filled : t ≠ []) : Literal [t] t :=
  ⟨by simp [spelled, filled], by simp⟩

/-- The pieces of runs of text, last one first. -/
def piecesOf (runs : List (List Char)) : List Piece := (runs.map fun r => Line.text (String.ofList r)).reverse

theorem piecesOf_append (runs runs' : List (List Char)) :
    piecesOf (runs ++ runs') = piecesOf runs' ++ piecesOf runs := by
  simp [piecesOf]

/-- The text read so far is a run by itself. -/
theorem exists_textPiece (plain : '&' ∉ text) :
    ∃ runs, Literal runs text.reverse ∧ textPiece text = piecesOf runs := by
  cases text with
  | nil => exact ⟨[], literal_nil, rfl⟩
  | cons c text =>
      refine ⟨[(c :: text).reverse], literal_singleton ?_ (by simp), rfl⟩
      exact Entity.selfSpelled_of_no_ampersand (by simpa [and_comm] using plain)

theorem length_escaped_afterMarks_le (t : List Char) : (escaped (afterMarks t)).length ≤ (escaped t).length := by
  have split : escaped t = escaped (marksOf t) ++ escaped (afterMarks t) := by
    rw [← escaped_append, List.takeWhile_append_dropWhile]
  rw [split, List.length_append]
  exact Nat.le_add_left _ _

/-- An escaped text is read as runs that hold no reference and come to the text. -/
theorem scan_escaped (enough : (escaped t).length + 2 ≤ fuel) (unbroken : '\n' ∉ t) (plain : '&' ∉ text) :
    ∃ runs, Literal runs (text.reverse ++ t) ∧
      scan fuel ctx before text line (escaped t) = line.push (piecesOf runs) := by
  induction fuel generalizing t before text line with
  | zero => omega
  | succ fuel ih =>
      obtain ⟨read, literal, pieces⟩ := exists_textPiece plain
      cases t with
      | nil =>
          refine ⟨read, by rwa [List.append_nil], ?_⟩
          rw [escaped_nil, scan, pieces]
      | cons c t =>
          have later := List.not_mem_of_not_mem_cons unbroken
          cases mark : isAsciiPunctuation c with
          | false =>
              have ampersand : '&' ∉ c :: text := by
                rw [List.mem_cons, not_or]
                exact ⟨(ne_of_plain mark rfl).symm, plain⟩
              have no_feed : '\n' ∉ escaped (c :: t) := not_mem_escaped unbroken (by decide)
              rw [escaped_cons_plain mark] at enough no_feed ⊢
              obtain ⟨runs, literal, scanned⟩ :=
                @ih t line c (c :: text) (by simp at enough; omega) later ampersand
              refine ⟨runs, by simpa using literal, ?_⟩
              rw [scan, item?_plain mark no_feed]
              exact scanned
          | true =>
              -- A run of marks ends what was read so far, and is a piece of its own.
              have after : afterMarks (c :: t) = afterMarks t := by simp [afterMarks, mark]
              have shorter := length_escaped_afterMarks_le t
              have no_feed : '\n' ∉ afterMarks t := fun mem =>
                later ((List.dropWhile_suffix _).subset mem)
              rw [escaped_cons_mark mark] at enough ⊢
              simp only [List.length_cons] at enough
              obtain ⟨fuel, rfl⟩ : ∃ n, fuel = n + 1 := ⟨fuel - 1, by omega⟩
              rw [scan, item?_escaped mark, after, pieces]
              dsimp only
              generalize (List.take _ _).getLastD _ = last
              obtain ⟨runs, literal', scanned⟩ := @ih (afterMarks t)
                ((line.push (piecesOf read)).push (piecesOf [marksOf (c :: t)])) last [] (by omega) no_feed (by simp)
              have marks : Literal [marksOf (c :: t)] (marksOf (c :: t)) := by
                refine literal_singleton ?_ (by simp [marksOf, mark])
                exact Entity.selfSpelled_of_punctuation fun d mem => List.mem_takeWhile_imp mem
              refine ⟨read ++ ([marksOf (c :: t)] ++ runs), ?_, ?_⟩
              · have whole : marksOf (c :: t) ++ ([].reverse ++ afterMarks t) = c :: t := by
                  rw [List.reverse_nil, List.nil_append, ← after, List.takeWhile_append_dropWhile]
                have all := literal.append (marks.append literal')
                rwa [whole] at all
              · rw [piecesOf_append, piecesOf_append, ← push_push, ← push_push]
                exact scanned

/-! ### The tokens of a line -/

/-- Without runs of marks there is no emphasis. -/
theorem emphasize_tokens (ts : List Token) : emphasize (ts.map Piece.token) = ts.filter (!isEmptyText ·) := by
  have added : ∀ base, (ts.map Piece.token).foldl Nest.add ⟨[], base⟩ = ⟨[], ts.reverse ++ base⟩ := by
    induction ts with
    | nil => exact fun _ => rfl
    | cons t ts ih =>
        intro base
        rw [List.map_cons, List.foldl_cons, List.reverse_cons, List.append_assoc]
        exact ih (t :: base)
  rw [emphasize, added, Nest.tokens, List.flatMap_nil, List.nil_append, List.append_nil, List.reverse_reverse]

/-- The tokens of runs of text. -/
def leavesOf (runs : List (List Char)) : List Token := runs.map fun r => .leaf .text (String.ofList r)

/-- An escaped text is read as tokens that hold no reference and come to the text. -/
theorem tokens_escaped (ctx : Context) (filled : t ≠ []) (unbroken : '\n' ∉ t) :
    ∃ runs, Literal runs t ∧ tokens ctx (escaped t) = leavesOf runs := by
  obtain ⟨runs, literal, scanned⟩ := @scan_escaped t ctx { inLink := ctx.inLink } ' ' []
    (4 * (escaped t).length + 3) (by omega) unbroken (by simp)
  refine ⟨runs, by simpa using literal, ?_⟩
  have some_text : (escaped t).isEmpty = false := by
    rw [List.isEmpty_eq_false_iff]
    exact fun none => filled (escaped_eq_nil_iff.1 none)
  have pieces : (Line.push { inLink := ctx.inLink } (piecesOf runs)).pieces = (leavesOf runs).map Piece.token := by
    simp [Line.push, Line.pieces, piecesOf, leavesOf, Line.text]
  have kept : (leavesOf runs).filter (!isEmptyText ·) = leavesOf runs := by
    refine List.filter_eq_self.2 fun t mem => ?_
    obtain ⟨r, among, rfl⟩ := List.mem_map.1 mem
    simpa [isEmptyText, Token.leaf] using (literal.spelled r among).2
  rw [tokens, read, some_text, if_neg (by decide), scanned, pieces, emphasize_tokens, kept]

/-- The nodes of such tokens, behind a run of text, are one text. -/
theorem phrasesFrom_leavesOf {runs : List (List Char)} (literal : Literal runs t) (s : String) :
    phrasesFrom (some s) (leavesOf runs) = [Build.text (s ++ String.ofList t)] := by
  obtain ⟨spelled, rfl⟩ := literal
  induction runs generalizing s with
  | nil =>
      rw [List.flatten_nil, String.ofList_nil, String.append_empty, leavesOf, List.map_nil, phrasesFrom]
      rfl
  | cons r runs ih =>
      rw [List.forall_mem_cons] at spelled
      have decoded := Entity.decode_eq_self_iff.2 spelled.1.1
      rw [leavesOf, List.map_cons, Token.leaf, phrasesFrom, Option.getD_some, decoded, List.flatten_cons,
        String.ofList_append, ← String.append_assoc]
      exact ih _ spelled.2

/-- Tokens that come to a text become one node of this text. -/
theorem phrases_leavesOf {runs : List (List Char)} (literal : Literal runs t) (filled : t ≠ []) :
    phrases (leavesOf runs) = [Build.text (String.ofList t)] := by
  cases runs with
  | nil => exact absurd literal.whole.symm filled
  | cons r runs =>
      have behind_nothing : phrases (leavesOf (r :: runs)) = phrasesFrom (some "") (leavesOf (r :: runs)) := by
        rw [phrases, leavesOf, List.map_cons, Token.leaf, phrasesFrom, phrasesFrom]
        rfl
      rw [behind_nothing, phrasesFrom_leavesOf literal, String.empty_append]

theorem phraseDrops_leavesOf (runs : List (List Char)) : phraseDrops (leavesOf runs) = [] := by
  induction runs with
  | nil => rw [leavesOf, List.map_nil, phraseDrops]
  | cons r runs ih =>
      rw [leavesOf, List.map_cons, Token.leaf, phraseDrops]
      exact ih

theorem noteKeys_leavesOf (runs : List (List Char)) : Token.noteKeys (leavesOf runs) = [] := by
  induction runs with
  | nil => rw [leavesOf, List.map_nil, Token.noteKeys]
  | cons r runs ih =>
      rw [leavesOf, List.map_cons, Token.leaf, Token.noteKeys, Token.noteKeys]
      exact ih

end Inline

end Unmark.Markdown
