import Unmark.Proofs.EscapedText
import Unmark.Proofs.OneLine

/-
Module: Unmark.Proofs.EscapedTitles
Layer: Proofs
Purpose: A text with all its marks escaped, as a paragraph and as the title of a link, of an image and of a
  definition. The paragraph says the text, without the spaces around it. The title is the text with its
  character references replaced: it is the text itself exactly when each reference in it stands for its own
  spelling.
Main exports: escapedText, parse_bracketed, parse_defining, parse_escaped_paragraph, parse_escaped
-/

namespace Unmark.Markdown

open Text (isAsciiPunctuation)

variable {t : List Char}

/-! ### Texts without control characters -/

theorem ne_of_printable (printable : ∀ c ∈ t, ' ' ≤ c) {d : Char} (low : d < ' ') : d ∉ t :=
  fun mem => absurd low (Char.not_lt.2 (printable d mem))

/-- A character that is neither a control nor a space. -/
theorem lt_of_ne_space {c : Char} (low : ' ' ≤ c) (other : c ≠ ' ') : ' ' < c :=
  Char.not_le.1 fun high => other (Char.le_antisymm high low)

theorem oneLine_escaped (printable : ∀ c ∈ t, ' ' ≤ c) : ∀ c ∈ escaped t, c ≠ '\n' ∧ c ≠ '\r' := by
  intro c mem
  rcases mem_or_eq_of_mem_escaped mem with within | rfl
  · constructor
    · rintro rfl
      exact ne_of_printable printable (by decide) within
    · rintro rfl
      exact ne_of_printable printable (by decide) within
  · decide

/-! ### Titles as they are written -/

theorem label?_letter (after : List Char) : label? ('x' :: ']' :: after) = some (['x'], after) := by
  simp [label?, labelWithin]

/-- A title in double quotes is read up to the quote that closes it. -/
theorem title?_escaped (printable : ∀ c ∈ t, ' ' ≤ c) (rest : List Char) :
    title? (' ' :: '\x22' :: (escaped t ++ '\x22' :: rest)) = some (escaped t, rest) := by
  have barred : ∀ c ∈ t, c ∉ ['\x00'] := by
    intro c mem null
    rw [List.mem_singleton] at null
    exact ne_of_printable printable (by decide) (null ▸ mem)
  have gap : (' ' :: '\x22' :: (escaped t ++ '\x22' :: rest)).dropWhile isGap =
      '\x22' :: (escaped t ++ '\x22' :: rest) := rfl
  rw [title?, if_pos (by decide), gap]
  exact titleBody?_escaped rfl (by decide) barred rest

/-- The definition that a destination and an escaped title come to. -/
theorem written_escaped (label : Option (List Char)) (filled : t ≠ []) :
    written label ['u'] (escaped t) =
      ⟨label.map String.ofList, some (.str "u"), some (.str (String.ofList t))⟩ := by
  have some_title : (escaped t).isEmpty = false := by
    rw [List.isEmpty_eq_false_iff]
    exact fun none => filled (escaped_eq_nil_iff.1 none)
  have url : destination ['u'] = "u" := by
    rw [destination, unescape]
    rfl
  rw [written, some_title, url, unescape_escaped]
  rfl

/-! ### Links and images -/

/-- What stands behind the brackets of a link or an image. -/
def titledTail (t : List Char) : List Char := ['(', 'u', ' ', '\x22'] ++ escaped t ++ ['\x22', ')']

/-- The definition in the place of a title. -/
def titledTarget (t : List Char) : Definition := ⟨none, some (.str "u"), some (.str (String.ofList t))⟩

theorem goal?_escaped (printable : ∀ c ∈ t, ' ' ≤ c) (filled : t ≠ []) (env : Environment)
    (source : List Char) : goal? env source (titledTail t) = some ⟨titledTarget t, none, []⟩ := by
  have no_gap (after : List Char) : ('u' :: after).dropWhile isGap = 'u' :: after := rfl
  have url (after : List Char) : linkDestination? ('u' :: ' ' :: after) = some (['u'], ' ' :: after) := by
    rw [linkDestination?, no_gap]
    simp [bareWithin]
  have found : target? ('u' :: ' ' :: '\x22' :: (escaped t ++ ['\x22', ')'])) = some (titledTarget t, []) := by
    have made : written none ['u'] (escaped t) = titledTarget t := written_escaped none filled
    rw [target?, url]
    simp only [title?_escaped printable, Option.getD_some]
    rw [← made]
    rfl
  have shape : titledTail t = '(' :: 'u' :: ' ' :: '\x22' :: (escaped t ++ ['\x22', ')']) := by simp [titledTail]
  unfold goal?
  simp only [shape, found]

/-- A link or an image with one letter in its brackets. -/
def bracketed (image : Bool) (t : List Char) : List Char :=
  (if image then ['!', '['] else ['[']) ++ 'x' :: ']' :: titledTail t

/-- A bracket around one letter is closed by the goal behind it. -/
theorem scan_bracket {ctx : Inline.Context} {source after : List Char} {goal : Goal}
    (found : goal? ctx.env source after = some goal) (whole : goal.rest = []) (fuel : Nat)
    (before : Char) (image : Bool) :
    (Inline.scan (fuel + 4) ctx before [] { brackets := [{ image, source }] } ('x' :: ']' :: after)).pieces =
      [.token (Bracket.token { image, source, inside := [Line.text "x"] } goal)] := by
  have letter : Inline.item? (fuel + 3) ctx { brackets := [{ image, source }] } before 'x' (']' :: after) =
      none := by
    rw [Inline.item?]
    all_goals decide
  have closed : Inline.item? (fuel + 2) ctx { brackets := [{ image, source }] } 'x' ']' after =
      some (.closing (some goal), []) := by
    rw [Inline.item?, Inline.closing?]
    simp [Line.mayClose, found, whole]
  rw [Inline.scan, letter]
  dsimp only
  rw [Inline.scan, closed]
  dsimp only
  rw [Inline.scan]
  cases image <;> rfl

/-- The token of a link or an image. -/
def titledToken (image : Bool) (t : List Char) : Token :=
  .mk (if image then .image else .link) none [("url", .str "u"), ("title", .str (String.ofList t))] none none
    [.leaf .text "x"]

theorem tokens_bracketed (printable : ∀ c ∈ t, ' ' ≤ c) (filled : t ≠ []) (image : Bool)
    {ctx : Inline.Context} (outer : ctx.inLink = false) :
    Inline.tokens ctx (bracketed image t) = [titledToken image t] := by
  have found := goal?_escaped printable filled ctx.env ('x' :: ']' :: titledTail t)
  obtain ⟨c, rest, shape, opened⟩ : ∃ c rest, bracketed image t = c :: rest ∧
      ∀ fuel, Inline.item? (fuel + 1) ctx {} ' ' c rest =
        some (.opening image ('x' :: ']' :: titledTail t), 'x' :: ']' :: titledTail t) := by
    cases image with
    | true => exact ⟨'!', '[' :: 'x' :: ']' :: titledTail t, rfl, fun _ => rfl⟩
    | false => exact ⟨'[', 'x' :: ']' :: titledTail t, rfl, fun _ => by simp [Inline.item?, Inline.note?, noteKey?]⟩
  obtain ⟨fuel, enough⟩ : ∃ n, 4 * (c :: rest).length + 4 = n + 6 := ⟨4 * rest.length + 2, by simp; omega⟩
  rw [Inline.tokens, shape, enough, Inline.read, if_neg (by simp), outer, Inline.scan, opened]
  dsimp only
  generalize (List.take _ _).getLastD _ = last
  have made : Bracket.token { image, source := 'x' :: ']' :: titledTail t, inside := [Line.text "x"] }
      ⟨titledTarget t, none, []⟩ = titledToken image t := by
    cases image <;> rfl
  have closed := scan_bracket found rfl fuel last image
  rw [made] at closed
  have text : isEmptyText (titledToken image t) = false := by cases image <;> rfl
  calc emphasize _ = emphasize ([titledToken image t].map Piece.token) := congrArg emphasize closed
    _ = [titledToken image t] := by rw [Inline.emphasize_tokens, List.filter_cons, text]; rfl

/-! ### Documents with a link or an image -/

theorem oneLine_bracketed (printable : ∀ c ∈ t, ' ' ≤ c) (image : Bool) :
    ∀ c ∈ bracketed image t, c ≠ '\n' ∧ c ≠ '\r' := by
  have start : ∀ c ∈ (if image then ['!', '['] else ['[']), c ≠ '\n' ∧ c ≠ '\r' := by
    cases image <;> simp
  have middle : ∀ c ∈ ['(', 'u', ' ', '\x22'], c ≠ '\n' ∧ c ≠ '\r' := by simp
  have stop : ∀ c ∈ ['\x22', ')'], c ≠ '\n' ∧ c ≠ '\r' := by simp
  have behind := List.forall_mem_append.2 ⟨List.forall_mem_append.2 ⟨middle, oneLine_escaped printable⟩, stop⟩
  refine List.forall_mem_append.2 ⟨start, ?_⟩
  exact List.forall_mem_cons.2 ⟨by decide, List.forall_mem_cons.2 ⟨by decide, behind⟩⟩

theorem ordinary_bracketed (printable : ∀ c ∈ t, ' ' ≤ c) (image : Bool) : Ordinary (bracketed image t) where
  oneLine := oneLine_bracketed printable image
  start := by
    cases image
    · exact ⟨0, '[', _, by decide, rfl, by decide, by decide, by simp⟩
    · exact ⟨0, '!', _, by decide, rfl, by decide, by decide, by simp⟩
  noItem := by cases image <;> rfl

/-- A bracket without a colon behind it starts no definition. -/
theorem linkDefinition_bracketed (image : Bool) (t : List Char) :
    linkDefinition { ahead := bracketed image t ++ ['\n'] } = .absent := by
  cases image with
  | true => rfl
  | false =>
      have spaces : dropSpaces 3 (bracketed false t ++ ['\n']) = '[' :: 'x' :: ']' :: (titledTail t ++ ['\n']) := rfl
      rw [linkDefinition, spaces]
      simp only [label?_letter]
      rfl

/-- The node of a link or an image with an escaped title. -/
def titledNode (image : Bool) (t : List Char) : Node :=
  if image then Build.image (some "u") "x" (some (Entity.decode (String.ofList t)))
  else Build.link (some "u") (some (Entity.decode (String.ofList t))) [Build.text "x"]

theorem phrases_titledToken (image : Bool) (t : List Char) :
    phrases [titledToken image t] = [titledNode image t] := by
  cases image with
  | true =>
      rw [phrases, titledToken, if_pos rfl, phrasesFrom, Token.flatten, Token.leaf, Token.flattenAll, phrasesFrom,
        Token.flattenAll]
      rfl
  | false =>
      rw [phrases, titledToken, if_neg (by decide), phrasesFrom, Token.leaf, phrasesFrom, phrasesFrom, phrasesFrom]
      rfl

/-- A link and an image in a paragraph of their own. -/
theorem parse_bracketed (o : Options) (printable : ∀ c ∈ t, ' ' ≤ c) (filled : t ≠ []) (image : Bool) :
    parse o (String.ofList (bracketed image t)) =
      .ok ⟨Build.root [Build.paragraph [titledNode image t]] [], []⟩ := by
  have tokens : lineTokens o (bracketed image t) = [titledToken image t] := by
    have whole : [] ++ bracketed image t ++ [] = bracketed image t := by rw [List.nil_append, List.append_nil]
    rw [← whole, lineTokens_around o, tokens_bracketed printable filled image rfl]
    · simp
    · simp
    · cases image <;> simp [bracketed]
    · cases image <;> simp [bracketed]
    · simp [bracketed, titledTail, List.getLast?_append, List.getLast?_cons]
  have drops : phraseDrops [titledToken image t] = [] := by
    cases image <;> simp [titledToken, phraseDrops, Token.leaf]
  rw [parse_paragraph (ordinary_bracketed printable image) o (linkDefinition_bracketed image t), tokens,
    phrases_titledToken, drops]
  rw [tokens]
  cases image <;> simp [titledToken, Token.noteKeys, Token.leaf]

/-! ### Documents with a definition -/

/-- The definition of a link with an escaped title. -/
def defining (t : List Char) : List Char := ['[', 'x', ']', ':', ' ', 'u', ' ', '\x22'] ++ escaped t ++ ['\x22']

theorem ordinary_defining (printable : ∀ c ∈ t, ' ' ≤ c) : Ordinary (defining t) where
  oneLine := by
    refine List.forall_mem_append.2 ⟨List.forall_mem_append.2 ⟨?_, oneLine_escaped printable⟩, ?_⟩ <;> simp
  start := ⟨0, '[', _, by decide, rfl, by decide, by decide, by simp⟩
  noItem := rfl

/-- A title that ends its line is the title of a definition. -/
theorem definitionTitle?_escaped (printable : ∀ c ∈ t, ' ' ≤ c) :
    definitionTitle? (' ' :: '\x22' :: (escaped t ++ ['\x22', '\n'])) = some (escaped t, []) := by
  have unbroken : '\n' ∉ ' ' :: '\x22' :: (escaped t ++ ['\x22']) := by
    simpa using fun mem => (oneLine_escaped printable _ mem).1 rfl
  have shape : ' ' :: '\x22' :: (escaped t ++ ['\x22', '\n']) =
      (' ' :: '\x22' :: (escaped t ++ ['\x22'])) ++ ['\n'] := by simp
  have within : toBlankLine (' ' :: '\x22' :: (escaped t ++ ['\x22', '\n'])) =
      ' ' :: '\x22' :: (escaped t ++ ['\x22', '\n']) := by
    rw [shape, toBlankLine, linesOf_of_feed unbroken]
    exact List.append_nil _
  rw [definitionTitle?, within, title?_escaped printable]
  dsimp only
  rw [shape, List.length_append, List.length_singleton, Nat.add_sub_cancel, List.drop_left]
  rfl

/-- What stands behind the colon is a destination and a title. -/
theorem definitionTail?_escaped (printable : ∀ c ∈ t, ' ' ≤ c) (filled : t ≠ []) :
    definitionTail? ['x'] (' ' :: 'u' :: ' ' :: '\x22' :: (escaped t ++ ['\x22', '\n'])) =
      some (⟨some "x", some (.str "u"), some (.str (String.ofList t))⟩, []) := by
  have made : written (some ['x']) ['u'] (escaped t) = ⟨some "x", some (.str "u"), some (.str (String.ofList t))⟩ :=
    written_escaped (some ['x']) filled
  have url (after : List Char) :
      definitionDestination? (' ' :: 'u' :: ' ' :: after) = some (['u'], ' ' :: after) := rfl
  rw [definitionTail?, url]
  simp only [definitionTitle?_escaped printable, made]

theorem linkDefinition_defining (printable : ∀ c ∈ t, ' ' ≤ c) (filled : t ≠ []) :
    linkDefinition { ahead := defining t ++ ['\n'] } = .read { ahead := [], env := { links :=
      [("X", ⟨some "x", some (.str "u"), some (.str (String.ofList t))⟩)] } } := by
  have spaces : dropSpaces 3 (defining t ++ ['\n']) =
      '[' :: 'x' :: ']' :: ':' :: ' ' :: 'u' :: ' ' :: '\x22' :: (escaped t ++ ['\x22', '\n']) := by
    rw [defining, List.append_assoc, List.append_assoc]
    rfl
  have key : labelKey (String.ofList ['x']) = "X" := by decide
  rw [linkDefinition, spaces]
  simp only [label?_letter, key, definitionTail?_escaped printable filled]
  rfl

theorem parse_defining (o : Options) (printable : ∀ c ∈ t, ' ' ≤ c) (filled : t ≠ []) :
    parse o (String.ofList (defining t)) = .ok ⟨Build.root (if o.definitionNodes then
      [Build.definition "x" (some "u") (some (Entity.decode (String.ofList t)))] else []) [], []⟩ := by
  have name : labelName "x" = "x" := by decide
  rw [parse_definition (ordinary_defining printable) o (linkDefinition_defining printable filled),
    Definition.node]
  simp only [name]
  rfl

/-! ### Documents with an escaped text -/

/-- What follows some digits of an escaped text is escaped as well. -/
theorem exists_drop_escaped {n : Nat} (digits : n ≤ ((escaped t).takeWhile Text.isDigit).length) :
    ∃ u, (escaped t).drop n = escaped u := by
  induction n generalizing t with
  | zero => exact ⟨t, rfl⟩
  | succ n ih =>
      cases t with
      | nil => simp at digits
      | cons c t =>
          cases mark : isAsciiPunctuation c with
          | true =>
              have backslash : Text.isDigit '\\' = false := by decide
              rw [escaped_cons_mark mark, List.takeWhile_cons, backslash] at digits
              simp at digits
          | false =>
              rw [escaped_cons_plain mark, List.takeWhile_cons] at digits
              rw [escaped_cons_plain mark, List.drop_succ_cons]
              split at digits
              · exact ih (by simpa using digits)
              · simp at digits

/-- Neither a bullet nor a number with its mark stands at the start of an escaped text. -/
theorem listStart?_escaped {n : Nat} (few : n ≤ 3) {c : Char} {rest : List Char} (shape : escaped t = c :: rest)
    (shown : ' ' < c) : listStart? (List.replicate n ' ' ++ escaped t) = none := by
  have unmarked {u : List Char} {d : Char} {rest : List Char} (shape : escaped u = d :: rest) :
      ∀ e ∈ ['*', '+', '-', '.', ')'], d ≠ e := by
    rcases head?_escaped (shape ▸ rfl : d ∈ (escaped u).head?) with rfl | ⟨-, plain⟩
    · simp
    · have marks : ∀ e ∈ ['*', '+', '-', '.', ')'], isAsciiPunctuation e = true := List.all_eq_true.1 rfl
      exact fun e mem => ne_of_plain plain (marks e mem)
  have here := unmarked shape
  simp only [List.forall_mem_cons] at here
  rw [listStart?, shape, leadingSpaces_replicate few shown]
  simp only [here.1, here.2.1, here.2.2.1, or_self, if_false]
  split
  · next digit digits mark behind found =>
      rw [← shape, shortDigits, Prod.mk.injEq] at found
      obtain ⟨u, dropped⟩ := exists_drop_escaped (t := t) (n := (digit :: digits).length) (by
        rw [← found.1]
        exact List.length_take_le' _ _)
      rw [found.1, dropped] at found
      have there := unmarked found.2
      simp only [List.forall_mem_cons] at there
      simp [there]
  · rfl

/-- The text between the spaces around it. -/
theorem exists_trimmed (shown : ∃ c ∈ t, c ≠ ' ') : ∃ front u back, t = front ++ u ++ back ∧
    (∀ c ∈ front, c = ' ') ∧ (∀ c ∈ back, c = ' ') ∧ u ≠ [] ∧ (∀ c ∈ u.head?, c ≠ ' ') ∧
      ∀ c ∈ u.getLast?, c ≠ ' ' := by
  obtain ⟨c, rest, body, start⟩ : ∃ c rest, t.dropWhile (· = ' ') = c :: rest ∧ c ≠ ' ' := by
    cases body : t.dropWhile (· = ' ') with
    | nil =>
        obtain ⟨c, mem, other⟩ := shown
        exact absurd (by simpa using List.dropWhile_eq_nil_iff.1 body c mem) other
    | cons c rest =>
        have first := List.head?_dropWhile_not (fun c => decide (c = ' ')) t
        rw [body] at first
        exact ⟨c, rest, rfl, by simpa using first⟩
  have kept : (c :: rest).rdropWhile (· = ' ') ≠ [] := by
    intro none
    exact start (by simpa using List.rdropWhile_eq_nil_iff.1 none c List.mem_cons_self)
  refine ⟨t.takeWhile (· = ' '), (c :: rest).rdropWhile (· = ' '), (c :: rest).rtakeWhile (· = ' '), ?_, ?_, ?_,
    kept, ?_, ?_⟩
  · rw [List.append_assoc, List.rdropWhile_append_rtakeWhile, ← body, List.takeWhile_append_dropWhile]
  · exact fun d mem => by simpa using List.mem_takeWhile_imp mem
  · exact fun d mem => by simpa using List.mem_rtakeWhile_imp mem
  · intro d mem
    cases inner : (c :: rest).rdropWhile (· = ' ') with
    | nil => exact absurd inner kept
    | cons e es =>
        have start' := List.rdropWhile_prefix (fun c => decide (c = ' ')) (c :: rest)
        rw [inner] at start' mem
        obtain ⟨rfl, -⟩ := List.cons_prefix_cons.1 start'
        obtain rfl := Option.some.inj mem
        exact start
  · intro d mem
    obtain ⟨filled, rfl⟩ := List.mem_getLast?_eq_getLast mem
    simpa using List.rdropWhile_last_not (fun c => decide (c = ' ')) (c :: rest) filled

section Paragraph

variable {front u back : List Char} (printable : ∀ c ∈ front ++ u ++ back, ' ' ≤ c)
  (before : ∀ c ∈ front, c = ' ') (behind : ∀ c ∈ back, c = ' ') (filled : u ≠ [])
  (start : ∀ c ∈ u.head?, c ≠ ' ')

include before in
theorem escaped_spaces : escaped front = front :=
  escaped_of_plain fun c mem => by rw [before c mem]; decide

include before in
theorem escaped_lead :
    escaped (front ++ u ++ back) = List.replicate front.length ' ' ++ escaped (u ++ back) := by
  rw [← List.eq_replicate_iff.2 ⟨rfl, before⟩, List.append_assoc, escaped_append, escaped_spaces before]

include printable filled start in
/-- An escaped text starts with its first character, if this is no mark, or with a backslash. -/
theorem exists_escaped_cons (more : List Char) : ∃ c rest, escaped (u ++ more) = c :: rest ∧ ' ' < c ∧
    ∀ d ∈ '[' :: blockMarks, c ≠ d := by
  cases shape : escaped u with
  | nil => exact absurd (escaped_eq_nil_iff.1 shape) filled
  | cons c rest =>
      refine ⟨c, rest ++ escaped more, by rw [escaped_append, shape, List.cons_append], ?_⟩
      rcases head?_escaped (shape ▸ rfl : c ∈ (escaped u).head?) with rfl | ⟨first, plain⟩
      · exact ⟨by decide, by simp [blockMarks]⟩
      · have low := printable c (by simp [List.mem_of_mem_head? first])
        have marks : ∀ d ∈ '[' :: blockMarks, isAsciiPunctuation d = true := List.all_eq_true.1 rfl
        exact ⟨lt_of_ne_space low (start c first), fun d mem => ne_of_plain plain (marks d mem)⟩

include printable before filled start in
theorem ordinary_escaped (few : front.length < 4) : Ordinary (escaped (front ++ u ++ back)) := by
  obtain ⟨c, rest, shape, shown, unmarked⟩ := exists_escaped_cons printable filled start back
  rw [List.forall_mem_cons] at unmarked
  refine ⟨oneLine_escaped printable, ?_, ?_⟩
  · refine ⟨front.length, c, rest, by omega, by rw [escaped_lead before, shape], shown, ?_, ?_⟩
    · exact fun mem => unmarked.2 c mem rfl
    · exact fun note => unmarked.1 note.1
  · rw [escaped_lead before]
    exact listStart?_escaped (by omega) shape shown

include printable before filled start in
theorem linkDefinition_escaped (few : front.length < 4) :
    linkDefinition { ahead := escaped (front ++ u ++ back) ++ ['\n'] } = .absent := by
  obtain ⟨c, rest, shape, shown, unmarked⟩ := exists_escaped_cons printable filled start back
  rw [escaped_lead before, shape, List.append_assoc, List.cons_append]
  exact linkDefinition_of_no_bracket (by omega) shown (unmarked '[' List.mem_cons_self) _ _

include printable before behind filled start in
/-- The paragraph of an escaped text with spaces around it. -/
theorem parse_escaped_between (o : Options) (few : front.length < 4) (stop : ∀ c ∈ u.getLast?, c ≠ ' ') :
    parse o (String.ofList (escaped (front ++ u ++ back))) =
      .ok ⟨Build.root [Build.paragraph [Build.text (String.ofList u)]] [], []⟩ := by
  have inner : ∀ c ∈ u, ' ' ≤ c := fun c mem => printable c (by simp [mem])
  obtain ⟨runs, literal, tokens⟩ := Inline.tokens_escaped (bareContext o) filled
    (ne_of_printable inner (by decide))
  have read : lineTokens o (escaped (front ++ u ++ back)) = Inline.leavesOf runs := by
    rw [escaped_append, escaped_append, escaped_spaces before, escaped_spaces behind,
      lineTokens_around o before behind, tokens]
    · exact fun none => filled (escaped_eq_nil_iff.1 none)
    · obtain ⟨c, rest, shape, shown, -⟩ := exists_escaped_cons printable filled start []
      rw [List.append_nil] at shape
      simpa [shape] using shown
    · intro c last
      rw [getLast?_escaped] at last
      exact lt_of_ne_space (inner c (List.mem_of_getLast? last)) (stop c last)
  rw [parse_paragraph (ordinary_escaped printable before filled start few) o
    (linkDefinition_escaped printable before filled start few), read, Inline.phrases_leavesOf literal filled,
    Inline.phraseDrops_leavesOf]
  rw [read, Inline.noteKeys_leavesOf]

end Paragraph

/-- An escaped text is parsed as a paragraph that says the text, but for the spaces around it. -/
theorem parse_escaped_paragraph (o : Options) (printable : ∀ c ∈ t, ' ' ≤ c) (shown : ∃ c ∈ t, c ≠ ' ')
    (few : (t.takeWhile (· = ' ')).length < 4) : parse o (String.ofList (escaped t)) =
      .ok ⟨Build.root [Build.paragraph [Build.text (String.ofList (Text.trimBy (· = ' ') t))]] [], []⟩ := by
  obtain ⟨front, u, back, rfl, before, behind, filled, start, stop⟩ := exists_trimmed shown
  have trimmed : Text.trimBy (· = ' ') (front ++ u ++ back) = u :=
    trimBy_around (by simpa using before) (by simpa using behind) filled (by simpa using start)
      (by simpa using stop)
  have lead : (front ++ u ++ back).takeWhile (· = ' ') = front := by
    rw [List.append_assoc]
    refine Json.takeWhile_append_of_stops (by simpa using before) ?_
    simpa [List.head?_append_of_ne_nil _ filled] using start
  rw [lead] at few
  rw [trimmed]
  exact parse_escaped_between printable before behind filled start o few stop

/-! ### Titles and paragraphs -/

/-- A text with all its marks and symbols of ASCII escaped. -/
def escapedText (t : String) : String := String.ofList (escaped t.toList)

/-- Let a text without control characters be written with all its marks escaped. As a paragraph it says the text,
    without the spaces around it. As the title of a link, of an image or of a definition it is the text with its
    character references replaced, although their ampersands have been escaped; so the title is the text itself
    exactly when every reference in it stands for its own spelling. -/
theorem parse_escaped (o : Options) {t : String} (printable : ∀ c ∈ t.toList, ' ' ≤ c) (filled : t ≠ "") :
    parse o ("[x](u \"" ++ escapedText t ++ "\")") = .ok ⟨Build.root [Build.paragraph
      [Build.link (some "u") (some (Entity.decode t)) [Build.text "x"]]] [], []⟩ ∧
    parse o ("![x](u \"" ++ escapedText t ++ "\")") = .ok ⟨Build.root [Build.paragraph
      [Build.image (some "u") "x" (some (Entity.decode t))]] [], []⟩ ∧
    parse o ("[x]: u \"" ++ escapedText t ++ "\"") = .ok ⟨Build.root (if o.definitionNodes then
      [Build.definition "x" (some "u") (some (Entity.decode t))] else []) [], []⟩ ∧
    ((∃ c ∈ t.toList, c ≠ ' ') → (t.toList.takeWhile (· = ' ')).length < 4 →
      parse o (escapedText t) = .ok ⟨Build.root [Build.paragraph
        [Build.text (String.ofList (Text.trimBy (· = ' ') t.toList))]] [], []⟩) ∧
    (Entity.decode t = t ↔ Entity.SelfSpelled t.toList) := by
  have some_chars : t.toList ≠ [] := fun none => filled (String.toList_eq_nil_iff.1 none)
  have link : String.ofList (bracketed false t.toList) = "[x](u \"" ++ escapedText t ++ "\")" := by
    simp [bracketed, titledTail, escapedText, ← String.toList_inj]
  have image : String.ofList (bracketed true t.toList) = "![x](u \"" ++ escapedText t ++ "\")" := by
    simp [bracketed, titledTail, escapedText, ← String.toList_inj]
  have definition : String.ofList (defining t.toList) = "[x]: u \"" ++ escapedText t ++ "\"" := by
    simp [defining, escapedText, ← String.toList_inj]
  have spelled : Entity.decode (String.ofList t.toList) = String.ofList t.toList ↔ Entity.SelfSpelled t.toList :=
    Entity.decode_eq_self_iff
  rw [String.ofList_toList] at spelled
  refine ⟨?_, ?_, ?_, parse_escaped_paragraph o printable, spelled⟩
  · rw [← link, parse_bracketed o printable some_chars, titledNode, String.ofList_toList]
    rfl
  · rw [← image, parse_bracketed o printable some_chars, titledNode, String.ofList_toList]
    rfl
  · rw [← definition, parse_defining o printable some_chars, String.ofList_toList]

/-- A reference of which all marks are escaped. -/
theorem parse_escaped_ampersand :
    (∀ c ∈ "&amp;".toList, ' ' ≤ c) ∧ "&amp;" ≠ "" ∧ escapedText "&amp;" = "\\&amp\\;" ∧
    parse {} "[x](u \"\\&amp\\;\")" = .ok ⟨Build.root [Build.paragraph
      [Build.link (some "u") (some "&") [Build.text "x"]]] [], []⟩ ∧
    parse {} "\\&amp\\;" = .ok ⟨Build.root [Build.paragraph [Build.text "&amp;"]] [], []⟩ ∧
    ¬ Entity.SelfSpelled "&amp;".toList := by
  have printable : ∀ c ∈ "&amp;".toList, ' ' ≤ c := by simp
  have source : escapedText "&amp;" = "\\&amp\\;" := by decide
  have decoded : Entity.decode "&amp;" = "&" := by decide +kernel
  obtain ⟨link, -, -, paragraph, spelled⟩ := parse_escaped {} printable (by decide)
  have said := paragraph ⟨'&', by decide, by decide⟩ (by decide)
  rw [source, decoded] at link
  rw [source] at said
  refine ⟨printable, by decide, source, link, said, ?_⟩
  rw [← spelled, decoded]
  decide

/-- The title of a link is another text than the one that was escaped in it. -/
theorem parse_escaped_title_ne :
    escapedText "&amp;" = "\\&amp\\;" ∧ ∃ p, parse {} "[x](u \"\\&amp\\;\")" = .ok p ∧
      p.tree.children = [Build.paragraph [Build.link (some "u") (some "&") [Build.text "x"]]] ∧ "&" ≠ "&amp;" := by
  have source : String.ofList (bracketed false "&amp;".toList) = "[x](u \"\\&amp\\;\")" := by decide
  have decoded : Entity.decode (String.ofList "&amp;".toList) = "&" := by decide +kernel
  have link := parse_bracketed {} (t := "&amp;".toList) (by simp) (by decide) false
  rw [source, titledNode, decoded] at link
  exact ⟨by decide, _, link, rfl, by decide⟩

end Unmark.Markdown
