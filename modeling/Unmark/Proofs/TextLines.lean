import Mathlib.Data.List.Chain
import Mathlib.Data.List.DropRight
import Unmark.Text.Space

/-
Module: Unmark.Proofs.TextLines
Layer: Proofs
Purpose: The lines of a text, said without the reader that finds them. A line is text without line ends and,
  behind it, a line end, which only the last line may lack; a carriage return at the end of one line has no
  line feed at the start of the next behind it, for the two of them are one line end. A text has exactly one
  such list of lines (`lines_splitLines`, `splitLines_flatten`), so a part of the list is the lines of the
  part of the text. Line feeds that become pairs of carriage return and line feed change the lines one by
  one, and nothing that white space is trimmed down to.
Main exports: Ended, Lines, flatten_splitLines, lines_splitLines, splitLines_flatten, crlf, splitLines_crlf,
  trim_crlf
-/

namespace Unmark.Text

/-! ### Lines -/

/-- No character of a text ends a line. -/
def Unbroken (cs : List Char) : Prop := ∀ c ∈ cs, isLineEnd c = false

/-- What a line ends with: one line boundary, or a carriage return with a line feed behind it. -/
inductive LineEnd : List Char → Prop where
  | single {c : Char} (ends : isLineEnd c = true) : LineEnd [c]
  | pair : LineEnd ['\r', '\n']

/-- A line with its line end. -/
def Ended (line : List Char) : Prop :=
  ∃ body stop, Unbroken body ∧ LineEnd stop ∧ line = body ++ stop

/-- A line may stand in front of another one: it is ended, and its end does not go on in the other. -/
def Precedes (line next : List Char) : Prop :=
  Ended line ∧ ¬(line.getLast? = some '\r' ∧ next.head? = some '\n')

/-- The lines of some text. Only the last of them may lack its line end, and it is not empty then. -/
structure Lines (ls : List (List Char)) : Prop where
  line : ∀ l ∈ ls, Ended l ∨ l ≠ [] ∧ Unbroken l
  chain : ls.IsChain Precedes

theorem unbroken_reverse {cs : List Char} : Unbroken cs.reverse ↔ Unbroken cs := by
  simp [Unbroken]

theorem LineEnd.ne_nil {stop : List Char} (h : LineEnd stop) : stop ≠ [] := by
  cases h with
  | single ends => exact List.cons_ne_nil _ _
  | pair => exact List.cons_ne_nil _ _

theorem Ended.ne_nil {line : List Char} (h : Ended line) : line ≠ [] := by
  obtain ⟨body, stop, -, ends, rfl⟩ := h
  exact List.append_ne_nil_of_right_ne_nil body ends.ne_nil

theorem Lines.ne_nil_of_mem {ls : List (List Char)} (h : Lines ls) {l : List Char} (mem : l ∈ ls) : l ≠ [] := by
  rcases h.line l mem with ended | ⟨filled, -⟩
  · exact ended.ne_nil
  · exact filled

/-- The start of the text that lines make up is the start of the first of them. -/
theorem Lines.head?_flatten {l : List Char} {ls : List (List Char)} (h : Lines (l :: ls)) :
    (l :: ls).flatten.head? = l.head? := by
  rw [List.flatten_cons, List.head?_append]
  cases l with
  | nil => exact absurd rfl (h.ne_nil_of_mem List.mem_cons_self)
  | cons c cs => rfl

theorem Lines.head {l : List Char} {ls : List (List Char)} (h : Lines (l :: ls)) : Lines [l] :=
  ⟨List.forall_mem_singleton.2 (h.line l List.mem_cons_self), List.isChain_singleton l⟩

theorem Lines.tail {l : List Char} {ls : List (List Char)} (h : Lines (l :: ls)) : Lines ls :=
  ⟨(List.forall_mem_cons.1 h.line).2, h.chain.tail⟩

theorem Lines.precedes {l m : List Char} {ls : List (List Char)} (h : Lines (l :: m :: ls)) : Precedes l m :=
  (List.isChain_cons_cons.1 h.chain).1

theorem lines_append {ls ms : List (List Char)} : Lines (ls ++ ms) ↔
    Lines ls ∧ Lines ms ∧ ∀ l ∈ ls.getLast?, ∀ m ∈ ms.head?, Precedes l m := by
  constructor
  · rintro ⟨line, chain⟩
    obtain ⟨left, right⟩ := List.forall_mem_append.1 line
    obtain ⟨chain_left, chain_right, seam⟩ := List.isChain_append.1 chain
    exact ⟨⟨left, chain_left⟩, ⟨right, chain_right⟩, seam⟩
  · rintro ⟨left, right, seam⟩
    exact ⟨List.forall_mem_append.2 ⟨left.line, right.line⟩,
      List.isChain_append.2 ⟨left.chain, right.chain, seam⟩⟩

/-- Every line with another one behind it is ended. -/
theorem Lines.ended_of_mem {ls : List (List Char)} {m : List Char} {ms : List (List Char)}
    (h : Lines (ls ++ m :: ms)) {l : List Char} (mem : l ∈ ls) : Ended l := by
  obtain ⟨front, back, rfl⟩ := List.append_of_mem mem
  have behind : Lines (l :: (back ++ m :: ms)) := by
    rw [List.append_assoc] at h
    exact (lines_append.1 h).2.1
  cases back with
  | nil => exact behind.precedes.1
  | cons next rest => exact behind.precedes.1

/-! ### The lines that are found -/

theorem splitLinesFrom_pair (line cs : List Char) :
    splitLinesFrom line ('\r' :: '\n' :: cs) = ('\n' :: '\r' :: line).reverse :: splitLinesFrom [] cs := by
  rw [splitLinesFrom]

/-- A character that is not the start of a pair ends the line or belongs to it. -/
theorem splitLinesFrom_cons (line : List Char) {c : Char} {cs : List Char}
    (lone : ¬(c = '\r' ∧ cs.head? = some '\n')) : splitLinesFrom line (c :: cs) =
      if isLineEnd c then (c :: line).reverse :: splitLinesFrom [] cs
      else splitLinesFrom (c :: line) cs := by
  rw [splitLinesFrom]
  rintro cs' rfl rfl
  exact lone ⟨rfl, rfl⟩

theorem splitLinesFrom_of_unbroken {body : List Char} (unbroken : Unbroken body) (line rest : List Char) :
    splitLinesFrom line (body ++ rest) = splitLinesFrom (body.reverse ++ line) rest := by
  induction body generalizing line with
  | nil => rfl
  | cons c body ih =>
      obtain ⟨inside, unbroken⟩ := List.forall_mem_cons.1 unbroken
      have lone : ¬(c = '\r' ∧ (body ++ rest).head? = some '\n') := by
        rintro ⟨rfl, -⟩
        cases inside
      rw [List.cons_append, splitLinesFrom_cons line lone, inside, if_neg Bool.false_ne_true, ih unbroken,
        List.reverse_cons, List.append_assoc]
      rfl

/-- An ended line is found in front of a text that does not go on with its end. -/
theorem splitLines_ended {line rest : List Char} (ended : Ended line)
    (apart : ¬(line.getLast? = some '\r' ∧ rest.head? = some '\n')) :
    splitLines (line ++ rest) = line :: splitLines rest := by
  obtain ⟨body, stop, unbroken, ends, rfl⟩ := ended
  rw [splitLines, List.append_assoc, splitLinesFrom_of_unbroken unbroken, List.append_nil]
  cases ends with
  | single boundary =>
      rw [List.getLast?_concat, Option.some.injEq] at apart
      rw [List.singleton_append, splitLinesFrom_cons _ apart, if_pos boundary, List.reverse_cons,
        List.reverse_reverse]
      rfl
  | pair =>
      rw [List.cons_append, List.singleton_append, splitLinesFrom_pair, List.reverse_cons,
        List.reverse_cons, List.reverse_reverse, List.append_assoc]
      rfl

theorem splitLines_unbroken {line : List Char} (unbroken : Unbroken line) (filled : line ≠ []) :
    splitLines line = [line] := by
  have read := splitLinesFrom_of_unbroken unbroken [] []
  rw [List.append_nil, List.append_nil] at read
  rw [splitLines, read, splitLinesFrom, List.isEmpty_reverse, List.reverse_reverse, if_neg]
  simpa using filled

/-- Lines are found again in the text that they make up. -/
theorem splitLines_flatten : ∀ {ls : List (List Char)}, Lines ls → splitLines ls.flatten = ls
  | [], _ => rfl
  | [l], lines => by
      rw [List.flatten_singleton]
      rcases lines.line l List.mem_cons_self with ended | ⟨filled, unbroken⟩
      · have apart : ¬(l.getLast? = some '\r' ∧ [].head? = some '\n') := by simp
        have found := splitLines_ended ended apart
        rwa [List.append_nil] at found
      · exact splitLines_unbroken unbroken filled
  | l :: m :: ls, lines => by
      have rest : Lines (m :: ls) := lines.tail
      obtain ⟨ended, apart⟩ := lines.precedes
      rw [← rest.head?_flatten] at apart
      rw [List.flatten_cons, splitLines_ended ended apart, splitLines_flatten rest]

theorem Lines.cons {line : List Char} {ls : List (List Char)} (ended : Ended line)
    (apart : ¬(line.getLast? = some '\r' ∧ ls.flatten.head? = some '\n')) (rest : Lines ls) :
    Lines (line :: ls) := by
  refine ⟨List.forall_mem_cons.2 ⟨.inl ended, rest.line⟩, ?_⟩
  cases ls with
  | nil => exact List.isChain_singleton line
  | cons m ms =>
      rw [rest.head?_flatten] at apart
      exact List.isChain_cons_cons.2 ⟨⟨ended, apart⟩, rest.chain⟩

/-- What is found in the rest of a text are lines, the first of them with what was held back in front, and
    nothing is lost. -/
theorem lines_splitLinesFrom (line cs : List Char) (unbroken : Unbroken line) :
    Lines (splitLinesFrom line cs) ∧ (splitLinesFrom line cs).flatten = line.reverse ++ cs := by
  have fresh : Unbroken [] := by simp [Unbroken]
  fun_induction splitLinesFrom line cs with
  | case1 line empty =>
      rw [List.isEmpty_iff.1 empty]
      exact ⟨⟨by simp, List.isChain_nil⟩, rfl⟩
  | case2 line filled =>
      have open_line : line.reverse ≠ [] := by simpa using filled
      refine ⟨⟨?_, List.isChain_singleton _⟩, by simp⟩
      intro l mem
      rw [List.mem_singleton.1 mem]
      exact .inr ⟨open_line, unbroken_reverse.2 unbroken⟩
  | case3 line cs ih =>
      obtain ⟨lines, whole⟩ := ih fresh
      have shape : ('\n' :: '\r' :: line).reverse = line.reverse ++ ['\r', '\n'] := by simp
      rw [shape]
      refine ⟨.cons ⟨_, _, unbroken_reverse.2 unbroken, .pair, rfl⟩ ?_ lines, ?_⟩
      · simp
      · rw [List.flatten_cons, whole]
        simp
  | case4 line c cs single ends ih =>
      obtain ⟨lines, whole⟩ := ih fresh
      rw [List.reverse_cons]
      refine ⟨.cons ⟨_, _, unbroken_reverse.2 unbroken, .single ends, rfl⟩ ?_ lines, ?_⟩
      · -- A carriage return with a line feed behind it would have been read as a pair.
        rw [whole, List.getLast?_concat]
        rintro ⟨carriage, feed⟩
        obtain ⟨cs', rfl⟩ := List.head?_eq_some_iff.1 feed
        exact single cs' (Option.some.inj carriage) rfl
      · rw [List.flatten_cons, whole]
        simp
  | case5 line c cs single inside ih =>
      have longer : Unbroken (c :: line) :=
        List.forall_mem_cons.2 ⟨Bool.eq_false_iff.2 inside, unbroken⟩
      obtain ⟨lines, whole⟩ := ih longer
      exact ⟨lines, by rw [whole]; simp⟩

theorem lines_splitLines (cs : List Char) : Lines (splitLines cs) :=
  (lines_splitLinesFrom [] cs (by simp [Unbroken])).1

/-- No text is lost between its lines. -/
theorem flatten_splitLines (cs : List Char) : (splitLines cs).flatten = cs :=
  (lines_splitLinesFrom [] cs (by simp [Unbroken])).2

/-! ### The start and the end of a text -/

theorem after?_eq_some_iff {start cs rest : List Char} : after? start cs = some rest ↔ cs = start ++ rest := by
  induction start generalizing cs with
  | nil => simp [after?]
  | cons c start ih =>
      cases cs with
      | nil => simp [after?]
      | cons d cs =>
          rw [after?, List.cons_append, List.cons.injEq]
          split
          · next same => rw [ih, same, eq_self, true_and]
          · next other => simp [Ne.symm other]

theorem trimEndBy_eq_rdropWhile (p : Char → Bool) (cs : List Char) : trimEndBy p cs = cs.rdropWhile p := rfl

/-! ### Carriage returns in front of line feeds -/

/-- A text with a carriage return in front of each line feed. -/
def crlf (cs : List Char) : List Char := cs.flatMap fun c => if c = '\n' then ['\r', '\n'] else [c]

@[simp] theorem crlf_nil : crlf [] = [] := rfl

theorem crlf_cons_feed (cs : List Char) : crlf ('\n' :: cs) = '\r' :: '\n' :: crlf cs := rfl

theorem crlf_cons {c : Char} (other : c ≠ '\n') (cs : List Char) : crlf (c :: cs) = c :: crlf cs := by
  rw [crlf, List.flatMap_cons, if_neg other]
  rfl

theorem crlf_append (cs cs' : List Char) : crlf (cs ++ cs') = crlf cs ++ crlf cs' := List.flatMap_append

theorem crlf_flatten (ls : List (List Char)) : crlf ls.flatten = (ls.map crlf).flatten := by
  induction ls with
  | nil => rfl
  | cons l ls ih => rw [List.flatten_cons, crlf_append, ih, List.map_cons, List.flatten_cons]

/-- A text without line feeds stays as it is. -/
theorem crlf_of_not_mem {cs : List Char} (plain : '\n' ∉ cs) : crlf cs = cs := by
  induction cs with
  | nil => rfl
  | cons c cs ih =>
      rw [List.mem_cons, not_or] at plain
      rw [crlf_cons (Ne.symm plain.1), ih plain.2]

theorem mem_crlf_of_mem {c : Char} {cs : List Char} (mem : c ∈ cs) : c ∈ crlf cs := by
  rw [crlf, List.mem_flatMap]
  refine ⟨c, mem, ?_⟩
  split
  · next feed => simp [feed]
  · exact List.mem_singleton.2 rfl

/-- A text without carriage returns is what is left when they are taken out again. -/
theorem filter_crlf {cs : List Char} (plain : '\r' ∉ cs) : (crlf cs).filter (· ≠ '\r') = cs := by
  induction cs with
  | nil => rfl
  | cons c cs ih =>
      rw [List.mem_cons, not_or] at plain
      by_cases feed : c = '\n'
      · simpa [feed, crlf_cons_feed] using ih plain.2
      · simpa [crlf_cons feed, Ne.symm plain.1] using ih plain.2

/-- No line feed is left at the start of a text. -/
theorem head?_crlf_ne_feed (cs : List Char) : (crlf cs).head? ≠ some '\n' := by
  cases cs with
  | nil => simp
  | cons c cs =>
      by_cases feed : c = '\n'
      · rw [feed, crlf_cons_feed]
        simp
      · rw [crlf_cons feed]
        simpa using feed

theorem Unbroken.crlf_eq {cs : List Char} (h : Unbroken cs) : crlf cs = cs := by
  apply crlf_of_not_mem
  intro mem
  cases h _ mem

theorem Ended.crlf {line : List Char} (h : Ended line) (plain : '\r' ∉ line) : Ended (crlf line) := by
  obtain ⟨body, stop, unbroken, ends, rfl⟩ := h
  rw [crlf_append, unbroken.crlf_eq]
  cases ends with
  | @single c boundary =>
      by_cases feed : c = '\n'
      · rw [feed]
        exact ⟨body, _, unbroken, .pair, rfl⟩
      · rw [crlf_cons feed]
        exact ⟨body, _, unbroken, .single boundary, rfl⟩
  | pair => exact absurd (by simp) plain

/-- The lines of a text without carriage returns change one by one when its line feeds become pairs. -/
theorem Lines.map_crlf : ∀ {ls : List (List Char)}, Lines ls → (∀ l ∈ ls, '\r' ∉ l) → Lines (ls.map crlf)
  | [], lines, _ => lines
  | [l], lines, plain => by
      refine ⟨?_, List.isChain_singleton _⟩
      rw [List.map_singleton, List.forall_mem_singleton]
      rcases lines.line l List.mem_cons_self with ended | ⟨filled, unbroken⟩
      · exact .inl (ended.crlf (plain l List.mem_cons_self))
      · rw [unbroken.crlf_eq]
        exact .inr ⟨filled, unbroken⟩
  | l :: m :: ls, lines, plain => by
      have rest : Lines (m :: ls) := lines.tail
      obtain ⟨first, plain⟩ := List.forall_mem_cons.1 plain
      refine .cons (lines.precedes.1.crlf first) ?_ (rest.map_crlf plain)
      -- Behind the seam no line feed stands by itself any more.
      rintro ⟨-, feed⟩
      rw [← crlf_flatten] at feed
      exact head?_crlf_ne_feed _ feed

/-- The lines of a text without carriage returns whose line feeds have become pairs. -/
theorem splitLines_crlf {cs : List Char} (plain : '\r' ∉ cs) :
    splitLines (crlf cs) = (splitLines cs).map crlf := by
  have lines := lines_splitLines cs
  have whole := flatten_splitLines cs
  -- A text has one list of lines only, so it is enough that the changed lines are lines.
  have each : ∀ l ∈ splitLines cs, '\r' ∉ l := by
    intro l mem inside
    exact plain (whole ▸ List.mem_flatten.2 ⟨l, mem, inside⟩)
  calc splitLines (crlf cs)
      = splitLines ((splitLines cs).map crlf).flatten := by rw [← crlf_flatten, whole]
    _ = (splitLines cs).map crlf := splitLines_flatten (lines.map_crlf each)

section

variable {p : Char → Bool} (carriage : p '\r' = true) (feed : p '\n' = true)

include carriage feed

theorem trimStartBy_crlf (cs : List Char) : trimStartBy p (crlf cs) = crlf (trimStartBy p cs) := by
  induction cs with
  | nil => rfl
  | cons c cs ih =>
      by_cases is_feed : c = '\n'
      · rw [is_feed, crlf_cons_feed, trimStartBy, trimStartBy, List.dropWhile_cons_of_pos carriage,
          List.dropWhile_cons_of_pos feed, List.dropWhile_cons_of_pos feed]
        exact ih
      · rw [crlf_cons is_feed]
        by_cases trimmed : p c = true
        · rw [trimStartBy, trimStartBy, List.dropWhile_cons_of_pos trimmed,
            List.dropWhile_cons_of_pos trimmed]
          exact ih
        · rw [trimStartBy, trimStartBy, List.dropWhile_cons_of_neg trimmed,
            List.dropWhile_cons_of_neg trimmed, crlf_cons is_feed]

theorem trimEndBy_crlf (cs : List Char) : trimEndBy p (crlf cs) = crlf (trimEndBy p cs) := by
  induction cs using List.reverseRecOn with
  | nil => rfl
  | append_singleton cs c ih =>
      rw [crlf_append, trimEndBy_eq_rdropWhile, trimEndBy_eq_rdropWhile, List.rdropWhile_concat]
      by_cases is_feed : c = '\n'
      · have pair : crlf ['\n'] = ['\r'] ++ ['\n'] := rfl
        rw [is_feed, pair, ← List.append_assoc, List.rdropWhile_concat_pos _ _ _ feed,
          List.rdropWhile_concat_pos _ _ _ carriage, if_pos feed]
        exact ih
      · rw [crlf_cons is_feed, crlf_nil, List.rdropWhile_concat]
        by_cases trimmed : p c = true
        · rw [if_pos trimmed, if_pos trimmed]
          exact ih
        · rw [if_neg trimmed, if_neg trimmed, crlf_append, crlf_cons is_feed, crlf_nil]

end

/-- Carriage returns and line feeds are white space, so trimming does not tell them apart. -/
theorem trim_crlf (cs : List Char) : trim (crlf cs) = crlf (trim cs) := by
  rw [trim, trimBy, trimStartBy_crlf rfl rfl, trimEndBy_crlf rfl rfl]
  rfl

end Unmark.Text
