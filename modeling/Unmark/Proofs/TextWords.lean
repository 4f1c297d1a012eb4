import Mathlib.Data.List.Chain
import Unmark.Text.Space

/-
Module: Unmark.Proofs.TextWords
Layer: Proofs
Purpose: The words of a text, said without the reader that finds them. A text is made of its words, which hold
  no white space, with white space between any two of them and maybe around them (`Spaced`); the words that
  are found are the only ones of this kind (`words_eq_iff`). Words with single spaces between them are a text
  without superfluous white space (`collapsed_join`) that has these words again (`spaced_join`).
Main exports: IsWord, Spaced, words_eq_iff, isWord_of_mem_words, spaced_join, Collapsed, collapsed_join
-/

namespace Unmark.Text

/-- A text of characters other than white space. -/
def IsWord (cs : List Char) : Prop := cs ≠ [] ∧ ∀ c ∈ cs, isSpace c = false

/-- A text is made of these words, in their order, and of any white space, of which there is some between two
    words. -/
inductive Spaced : List (List Char) → List Char → Prop where
  | nil : Spaced [] []
  | space {c : Char} {cs : List Char} {ws : List (List Char)} (space : isSpace c = true)
      (spaced : Spaced ws cs) : Spaced ws (c :: cs)
  | word {w rest : List Char} {ws : List (List Char)} (word : IsWord w)
      (apart : ∀ c ∈ rest.head?, isSpace c = true) (spaced : Spaced ws rest) : Spaced (w :: ws) (w ++ rest)

/-! ### The words that are found -/

theorem words_space {c : Char} (space : isSpace c = true) (cs : List Char) : words (c :: cs) = words cs := by
  rw [words, wordsFrom, if_pos space]
  rfl

theorem wordsFrom_letters {w : List Char} (letters : ∀ c ∈ w, isSpace c = false) (read cs : List Char) :
    wordsFrom read (w ++ cs) = wordsFrom (w.reverse ++ read) cs := by
  induction w generalizing read with
  | nil => rfl
  | cons c w ih =>
      obtain ⟨letter, letters⟩ := List.forall_mem_cons.1 letters
      rw [List.cons_append, wordsFrom, letter, if_neg Bool.false_ne_true, ih letters, List.reverse_cons,
        List.append_assoc]
      rfl

/-- A word ends where white space or nothing follows. -/
theorem wordsFrom_apart {read rest : List Char} (begun : read ≠ [])
    (apart : ∀ c ∈ rest.head?, isSpace c = true) : wordsFrom read rest = read.reverse :: words rest := by
  have filled : read.isEmpty ≠ true := by rwa [ne_eq, List.isEmpty_iff]
  cases rest with
  | nil =>
      rw [wordsFrom, if_neg filled]
      rfl
  | cons c rest =>
      have space := apart c rfl
      rw [wordsFrom, if_pos space, if_neg filled, words_space space]
      rfl

theorem words_word {w rest : List Char} (word : IsWord w) (apart : ∀ c ∈ rest.head?, isSpace c = true) :
    words (w ++ rest) = w :: words rest := by
  obtain ⟨filled, letters⟩ := word
  have begun : w.reverse ++ [] ≠ [] := by
    rw [List.append_nil, ne_eq, List.reverse_eq_nil_iff]
    exact filled
  rw [words, wordsFrom_letters letters, wordsFrom_apart begun apart, List.append_nil, List.reverse_reverse]

theorem Spaced.words_eq {ws : List (List Char)} {cs : List Char} (spaced : Spaced ws cs) : words cs = ws := by
  induction spaced with
  | nil => rfl
  | space space spaced ih => rw [words_space space, ih]
  | word word apart spaced ih => rw [words_word word apart, ih]

theorem isWord_reverse {c : Char} {cs : List Char} (letters : ∀ d ∈ c :: cs, isSpace d = false) :
    IsWord (c :: cs).reverse := by
  refine ⟨?_, ?_⟩
  · rw [ne_eq, List.reverse_eq_nil_iff]
    exact List.cons_ne_nil c cs
  · intro d mem
    exact letters d (List.mem_reverse.1 mem)

/-- Every text is made of the words that are found in it. -/
theorem spaced_words (cs : List Char) : Spaced (words cs) cs := by
  -- The characters of a word that are read already stand in front of the rest.
  have within : ∀ (cs read : List Char), (∀ c ∈ read, isSpace c = false) →
      Spaced (wordsFrom read cs) (read.reverse ++ cs) := by
    intro cs
    induction cs with
    | nil =>
        intro read letters
        cases read with
        | nil => exact .nil
        | cons d read => exact .word (isWord_reverse letters) (by simp) .nil
    | cons c cs ih =>
        intro read letters
        by_cases space : isSpace c = true
        · have behind : Spaced (words cs) (c :: cs) := .space space (ih [] (List.forall_mem_nil _))
          cases read with
          | nil =>
              rw [wordsFrom, if_pos space]
              exact behind
          | cons d read =>
              rw [wordsFrom, if_pos space]
              apply Spaced.word (isWord_reverse letters) _ behind
              rintro e ⟨⟩
              exact space
        · rw [Bool.not_eq_true] at space
          have longer := ih (c :: read) (List.forall_mem_cons.2 ⟨space, letters⟩)
          rw [List.reverse_cons, List.append_assoc] at longer
          rw [wordsFrom, space, if_neg Bool.false_ne_true]
          exact longer
  exact within cs [] (List.forall_mem_nil _)

/-- The words of a text are those that are found in it, and no others. -/
theorem words_eq_iff {ws : List (List Char)} {cs : List Char} : words cs = ws ↔ Spaced ws cs := by
  constructor
  · rintro rfl
    exact spaced_words cs
  · exact Spaced.words_eq

theorem Spaced.isWord_of_mem {ws : List (List Char)} {cs w : List Char} (spaced : Spaced ws cs) (mem : w ∈ ws) :
    IsWord w := by
  induction spaced with
  | nil => cases mem
  | space space spaced ih => exact ih mem
  | word word apart spaced ih =>
      rcases List.mem_cons.1 mem with rfl | mem
      · exact word
      · exact ih mem

theorem isWord_of_mem_words {cs w : List Char} (mem : w ∈ words cs) : IsWord w :=
  (spaced_words cs).isWord_of_mem mem

/-! ### Words with single spaces between them -/

/-- A text without superfluous white space: all white space is spaces, each by itself and between other
    characters. -/
structure Collapsed (cs : List Char) : Prop where
  spaces : ∀ c ∈ cs, isSpace c = true → c = ' '
  start : ∀ c ∈ cs.head?, isSpace c = false
  stop : ∀ c ∈ cs.getLast?, isSpace c = false
  single : cs.IsChain fun c d => ¬(isSpace c = true ∧ isSpace d = true)

theorem join_cons_cons (sep w x : List Char) (ws : List (List Char)) :
    join sep (w :: x :: ws) = w ++ (sep ++ join sep (x :: ws)) := by
  rw [join, List.append_assoc]
  exact List.cons_ne_nil x ws

/-- Words with single spaces between them have these words again. -/
theorem spaced_join {ws : List (List Char)} (all : ∀ w ∈ ws, IsWord w) : Spaced ws (join [' '] ws) := by
  induction ws with
  | nil => exact .nil
  | cons w ws ih =>
      obtain ⟨word, all⟩ := List.forall_mem_cons.1 all
      cases ws with
      | nil =>
          have alone := Spaced.word word (by simp) .nil
          rwa [List.append_nil] at alone
      | cons x ws =>
          rw [join_cons_cons]
          apply Spaced.word word _ (.space rfl (ih all))
          rintro c ⟨⟩
          rfl

theorem join_ne_nil {w : List Char} (word : IsWord w) (ws : List (List Char)) : join [' '] (w :: ws) ≠ [] := by
  cases ws with
  | nil => exact word.1
  | cons x ws =>
      rw [join_cons_cons]
      exact List.append_ne_nil_of_left_ne_nil word.1 _

theorem IsWord.collapsed {w : List Char} (word : IsWord w) : Collapsed w := by
  obtain ⟨-, letters⟩ := word
  refine ⟨?_, ?_, ?_, ?_⟩
  · intro c mem space
    rw [letters c mem] at space
    cases space
  · intro c first
    exact letters c (List.mem_of_mem_head? first)
  · intro c last
    exact letters c (List.mem_of_mem_getLast? last)
  · apply List.Pairwise.isChain
    apply List.pairwise_of_forall_mem_list
    rintro c mem d - ⟨space, -⟩
    rw [letters c mem] at space
    cases space

/-- A word and a space in front of a text without superfluous white space make another such text. -/
theorem Collapsed.cons_word {w cs : List Char} (word : IsWord w) (collapsed : Collapsed cs) (filled : cs ≠ []) :
    Collapsed (w ++ ' ' :: cs) := by
  have here := word.collapsed
  refine ⟨?_, ?_, ?_, ?_⟩
  · intro c mem space
    rcases List.mem_append.1 mem with mem | mem
    · exact here.spaces c mem space
    · rcases List.mem_cons.1 mem with rfl | mem
      · rfl
      · exact collapsed.spaces c mem space
  · rw [List.head?_append_of_ne_nil w word.1]
    exact here.start
  · rw [List.getLast?_append_cons, List.getLast?_cons_of_ne_nil filled]
    exact collapsed.stop
  · rw [List.isChain_append, List.isChain_cons]
    refine ⟨here.single, ⟨?_, collapsed.single⟩, ?_⟩
    · rintro d first ⟨-, space⟩
      rw [collapsed.start d first] at space
      cases space
    · rintro c last d - ⟨space, -⟩
      rw [here.stop c last] at space
      cases space

theorem collapsed_join {ws : List (List Char)} (all : ∀ w ∈ ws, IsWord w) : Collapsed (join [' '] ws) := by
  induction ws with
  | nil => exact ⟨List.forall_mem_nil _, by simp [join], by simp [join], List.isChain_nil⟩
  | cons w ws ih =>
      obtain ⟨word, all⟩ := List.forall_mem_cons.1 all
      cases ws with
      | nil => exact word.collapsed
      | cons x ws =>
          rw [join_cons_cons]
          exact .cons_word word (ih all) (join_ne_nil (all x List.mem_cons_self) ws)

end Unmark.Text
