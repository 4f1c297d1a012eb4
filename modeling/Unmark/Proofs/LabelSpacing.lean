import Mathlib
import Unmark.Markdown.TokenTree
import Unmark.Proofs.LowerCase
import Unmark.Proofs.TextWords

/-
Module: Unmark.Proofs.LabelSpacing
Layer: Proofs
Purpose: White space in labels. A word in lower case is a word, and a space is a space, so the name of a label
  is words with single spaces between them (`exists_words_labelName`). That is why the name of a name is the
  same name, and why the name does not depend on the white space of the label.
Main exports: exists_words_labelName, Respaced, labelName_normalizes
-/

namespace Unmark

namespace Text

theorem Lowered.isWord {w ds : List Char} (lowered : Lowered w ds) (word : IsWord w) : IsWord ds := by
  obtain ⟨filled, letters⟩ := word
  refine ⟨?_, ?_⟩
  · cases lowered with
    | nil => exact absurd rfl filled
    | cons here behind => exact List.append_ne_nil_of_left_ne_nil here.ne_nil _
  · clear filled
    induction lowered with
    | nil => exact List.forall_mem_nil _
    | cons here behind ih =>
        obtain ⟨letter, letters⟩ := List.forall_mem_cons.1 letters
        intro d mem
        rcases List.mem_append.1 mem with mem | mem
        · exact here.isSpace_of_mem letter mem
        · exact ih letters d mem

/-- Words with single spaces between them are as many words in lower case, spaced the same way. -/
theorem Lowered.exists_join {ws : List (List Char)} {ds : List Char} (lowered : Lowered (join [' '] ws) ds)
    (all : ∀ w ∈ ws, IsWord w) :
    ∃ ws', List.Forall₂ Lowered ws ws' ∧ (∀ w ∈ ws', IsWord w) ∧ ds = join [' '] ws' := by
  induction ws generalizing ds with
  | nil =>
      cases lowered with
      | nil => exact ⟨[], .nil, List.forall_mem_nil _, rfl⟩
  | cons w ws ih =>
      obtain ⟨word, all⟩ := List.forall_mem_cons.1 all
      cases ws with
      | nil => exact ⟨[ds], .cons lowered .nil, List.forall_mem_singleton.2 (lowered.isWord word), rfl⟩
      | cons x ws =>
          rw [join_cons_cons] at lowered
          obtain ⟨front, back, first, rest, rfl⟩ := lowered.exists_append
          cases rest with
          | cons here behind =>
              obtain ⟨ws', each, all', rfl⟩ := ih behind all
              cases each with
              | cons second each =>
                  refine ⟨front :: _, .cons first (.cons second each), ?_, ?_⟩
                  · exact List.forall_mem_cons.2 ⟨first.isWord word, all'⟩
                  · rw [here.eq_of_isSpace rfl, join_cons_cons]

end Text

namespace Markdown

/-- The name of a label is words with single spaces between them. -/
theorem exists_words_labelName (l : String) :
    ∃ ws, (∀ w ∈ ws, Text.IsWord w) ∧ (labelName l).toList = Text.join [' '] ws := by
  have lowered := Text.lowered_lower (collapse l.toList)
  obtain ⟨ws, -, all, name⟩ := lowered.exists_join fun w mem => Text.isWord_of_mem_words mem
  exact ⟨ws, all, by rw [labelName, String.toList_ofList, name]⟩

theorem labelName_labelName (l : String) : labelName (labelName l) = labelName l := by
  obtain ⟨ws, all, name⟩ := exists_words_labelName l
  have again : collapse (labelName l).toList = Text.lower (collapse l.toList) := by
    calc collapse (labelName l).toList = Text.join [' '] ws := by
          rw [collapse, name, (Text.spaced_join all).words_eq]
      _ = Text.lower (collapse l.toList) := by rw [← name, labelName, String.toList_ofList]
  rw [labelName, again, Text.lower_lower, labelName]

/-- Two labels have the same words and differ at most in the white space between and around these. -/
def Respaced (l l' : String) : Prop := ∃ ws, Text.Spaced ws l.toList ∧ Text.Spaced ws l'.toList

theorem Respaced.labelName_eq {l l' : String} (respaced : Respaced l l') : labelName l = labelName l' := by
  obtain ⟨ws, spaced, spaced'⟩ := respaced
  rw [labelName, labelName, collapse, collapse, spaced.words_eq, spaced'.words_eq]

/-- The name of a label holds no superfluous white space, and it is its own name. References have one name if
    their labels differ in white space only. -/
theorem labelName_normalizes :
    (∀ l, Text.Collapsed (labelName l).toList ∧ labelName (labelName l) = labelName l) ∧
    ∀ l l', Respaced l l' → labelName l = labelName l' ∧
      ∀ r r', referenceName r (some (.str l)) = referenceName r' (some (.str l')) := by
  refine ⟨?_, ?_⟩
  · intro l
    obtain ⟨ws, all, name⟩ := exists_words_labelName l
    refine ⟨?_, labelName_labelName l⟩
    rw [name]
    exact Text.collapsed_join all
  · intro l l' respaced
    exact ⟨respaced.labelName_eq, fun _ _ => respaced.labelName_eq⟩

/-- Wide spaces and a line feed around and between words are the same as none around and one between. -/
theorem labelName_normalizes_wide :
    Respaced "\u3000Big\u00A0\n WORD\u2003" "Big WORD" ∧
      labelName "\u3000Big\u00A0\n WORD\u2003" = labelName "Big WORD" ∧ labelName "Big WORD" = "big word" := by
  have respaced : Respaced "\u3000Big\u00A0\n WORD\u2003" "Big WORD" := by
    refine ⟨["Big".toList, "WORD".toList], ?_, ?_⟩
    · apply Text.words_eq_iff.1
      decide
    · apply Text.words_eq_iff.1
      decide
  obtain ⟨-, names⟩ := labelName_normalizes
  refine ⟨respaced, (names _ _ respaced).1, ?_⟩
  decide +kernel

end Markdown

end Unmark
