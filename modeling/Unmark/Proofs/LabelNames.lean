import Mathlib
import Unmark.Markdown.Label
import Unmark.Proofs.LowerCase

/-
Module: Unmark.Proofs.LabelNames
Layer: Proofs
Purpose: The two images of a label: its key, by which the grammar matches it, is in upper case after lower
  case, and its name in the tree is in lower case. The key is the name in upper case, so labels with the
  same name have the same key. The converse fails in general, since upper case equates more letters than
  lower case; it holds for names of ASCII characters.
Main exports: upperString_labelName, labelName_eq_of_labelKey_eq
-/

namespace Unmark

namespace Text

/-! ### Lower case in ASCII -/

/-- Whether a character is a capital letter of ASCII. -/
abbrev IsCapital (c : Char) : Prop := 0x41 ≤ c.toNat ∧ c.toNat ≤ 0x5A

theorem toNat_ofNat_of_ascii : ∀ n < 0x80, (Char.ofNat n).toNat = n := by
  decide

/-- A character that stays as it is in lower case is no capital letter of ASCII. -/
theorem not_isCapital_of_lowerChar {c : Char} (small : lowerChar c = [c]) : ¬ IsCapital c := by
  rintro ⟨first, last⟩
  have mapped : lowerChar c = [Char.ofNat (c.toNat + 32)] := by
    unfold lowerChar
    dsimp only
    rw [if_neg (by omega), if_pos (by omega), if_pos last]
  rw [mapped, List.singleton_inj] at small
  have number := congrArg Char.toNat small
  rw [toNat_ofNat_of_ascii _ (by omega)] at number
  omega

/-- A text in lower case holds no capital letters of ASCII. -/
theorem not_isCapital_lower {cs : List Char} {d : Char} (mem : d ∈ lower cs) : ¬ IsCapital d :=
  not_isCapital_of_lowerChar ((lowered_lower cs).lowerChar_of_mem mem)

/-- The upper-case form of an ASCII character that is no capital letter. -/
theorem upperChar_ascii {c : Char} (ascii : c.toNat < 0x80) :
    upperChar c = [Char.ofNat (if 0x61 ≤ c.toNat ∧ c.toNat ≤ 0x7A then c.toNat - 32 else c.toNat)] := by
  unfold upperChar
  dsimp only
  split
  · rw [if_neg (by omega), Char.ofNat_toNat]
  · split
    · rw [if_pos (by omega)]
    · rw [if_neg (by omega), Char.ofNat_toNat]

/-- Upper case tells ASCII characters apart that are no capital letters. -/
theorem eq_of_upperChar_eq {c d : Char} (ascii : c.toNat < 0x80) (ascii' : d.toNat < 0x80)
    (small : ¬ IsCapital c) (small' : ¬ IsCapital d) (same : upperChar c = upperChar d) : c = d := by
  rw [upperChar_ascii ascii, upperChar_ascii ascii', List.singleton_inj] at same
  have numbers := congrArg Char.toNat same
  rw [toNat_ofNat_of_ascii _ (by split <;> omega), toNat_ofNat_of_ascii _ (by split <;> omega)] at numbers
  rw [IsCapital] at small small'
  apply Char.toNat_inj.1
  split at numbers <;> split at numbers <;> omega

/-- Texts of ASCII characters without capital letters are equal if they are so in upper case. -/
theorem eq_of_upper_eq : ∀ {cs ds : List Char},
    (∀ c ∈ cs, c.toNat < 0x80 ∧ ¬ IsCapital c) → (∀ d ∈ ds, d.toNat < 0x80 ∧ ¬ IsCapital d) →
      upper cs = upper ds → cs = ds
  | [], [], _, _, _ => rfl
  | [], d :: ds, _, small, same => by
      rw [List.forall_mem_cons] at small
      simp [upper, upperChar_ascii small.1.1] at same
  | c :: cs, [], small, _, same => by
      rw [List.forall_mem_cons] at small
      simp [upper, upperChar_ascii small.1.1] at same
  | c :: cs, d :: ds, small, small', same => by
      rw [List.forall_mem_cons] at small small'
      have heads : upperChar c ++ upper cs = upperChar d ++ upper ds := same
      have lengths : (upperChar c).length = (upperChar d).length := by
        rw [upperChar_ascii small.1.1, upperChar_ascii small'.1.1]
        rfl
      obtain ⟨first, rest⟩ := List.append_inj heads lengths
      rw [eq_of_upperChar_eq small.1.1 small'.1.1 small.1.2 small'.1.2 first,
        eq_of_upper_eq small.2 small'.2 rest]

end Text

namespace Markdown

/-! ### Names and keys -/

/-- The key of a label is its name in upper case. -/
theorem upperString_labelName (label : String) : Text.upperString (labelName label) = labelKey label := by
  rw [Text.upperString, labelName, labelKey, String.toList_ofList]

/-- Whether a text is of ASCII characters. -/
def IsAscii (s : String) : Prop := ∀ c ∈ s.toList, c.toNat < 0x80

/-- Labels with the same key have the same name, if their names are of ASCII characters. -/
theorem labelName_eq_of_labelKey_eq {l l' : String} (key : labelKey l = labelKey l')
    (ascii : IsAscii (labelName l)) (ascii' : IsAscii (labelName l')) : labelName l = labelName l' := by
  have small : ∀ {label}, IsAscii (labelName label) → ∀ c ∈ Text.lower (collapse label.toList),
      c.toNat < 0x80 ∧ ¬ Text.IsCapital c := by
    intro label ascii c mem
    rw [IsAscii, labelName, String.toList_ofList] at ascii
    exact ⟨ascii c mem, Text.not_isCapital_lower mem⟩
  have upper := String.ofList_injective key
  rw [labelName, labelName, Text.eq_of_upper_eq (small ascii) (small ascii') upper]

end Markdown

end Unmark
