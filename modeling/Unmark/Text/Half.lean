import Unmark.Text.Quoted

/-
Module: Unmark.Text.Half
Layer: Text
Purpose: Halves of surrogate pairs. They have codes but are no characters, so no text holds one; yet an escape
  can name one by its code. A text in which it should stand has a character in its place that has the
  same place in a plane of its own. Unicode has no characters in the planes that are used for this; where a text
  might hold some all the same, it is read twice, with two planes, and the halves are where the results differ.
  A text with halves can be shown, where they are given by their codes, but it cannot be encoded.
Main exports: isHalf, standIn, charOf, Twice, Twice.shown, Twice.halves?, Halves.message
-/

namespace Unmark.Text

/-- Whether a code is that of a half of a surrogate pair. -/
def isHalf (code : Nat) : Bool := 0xD800 ≤ code && code < 0xE000

/-- The character in a plane that stands for a half of a surrogate pair. -/
def standIn (plane code : Nat) : Char := Char.ofNat (plane * 0x10000 + code)

/-- The plane of the characters that stand for halves. -/
def usualPlane : Nat := 13

/-- Another plane for them. -/
def otherPlane : Nat := 12

/-- The character with a code, or the one that stands for it. -/
def charOf (plane code : Nat) : Char := if isHalf code then standIn plane code else Char.ofNat code

/-- No character is a half. -/
@[simp] theorem isHalf_toNat (c : Char) : isHalf c.toNat = false := by
  have valid : c.toNat < 0xD800 ∨ 0xDFFF < c.toNat ∧ c.toNat < 0x110000 := c.valid
  simp only [isHalf, Bool.and_eq_false_iff, decide_eq_false_iff_not]
  omega

@[simp] theorem charOf_toNat (plane : Nat) (c : Char) : charOf plane c.toNat = c := by
  simp [charOf, Char.ofNat_toNat]

end Unmark.Text

namespace Unmark

/-- Something that was read twice, with the usual plane for halves and with the other one. -/
structure Twice (α : Type) where
  usual : α
  other : α
deriving DecidableEq, Repr, Inhabited

namespace Twice

/-- Something without halves is read alike both times. -/
def same {α : Type} (a : α) : Twice α := ⟨a, a⟩

/-- What both readings are made into. -/
def map {α β : Type} (f : α → β) (t : Twice α) : Twice β := ⟨f t.usual, f t.other⟩

/-- The code of the half for which two characters stand, and nothing for a character that was read alike both
    times. -/
def half? (c : Char × Char) : Option Nat :=
  if c.1 = c.2 then none else some (c.1.toNat - Text.usualPlane * 0x10000)

/-- The characters of a text, each as it was read twice. -/
def chars (t : Twice String) : List (Char × Char) := t.usual.toList.zip t.other.toList

/-- The code of a half as an escape. -/
def escape (code : Nat) : List Char := '\\' :: 'u' :: Text.hexDigits 4 code

/-- A text as it is shown, with its halves as escapes. -/
def shown (t : Twice String) : String :=
  String.ofList (t.chars.flatMap fun c => (half? c).elim [c.1] escape)

end Twice

/-- The first halves in a text, which stand side by side: where they start, and the code of the first one and of the
    others. -/
structure Halves where
  start : Nat
  first : Nat
  others : List Nat
deriving DecidableEq, Repr, Inhabited

/-- The first halves in a text. -/
def Twice.halves? (t : Twice String) : Option Halves :=
  let codes := t.chars.map half?
  let start := (codes.takeWhile Option.isNone).length
  match ((codes.drop start).takeWhile Option.isSome).reduceOption with
  | [] => none
  | first :: others => some { start, first, others }

theorem Twice.eq_of_mem_zip_self {α : Type} {l : List α} {p : α × α} (mem : p ∈ l.zip l) : p.1 = p.2 := by
  induction l with
  | nil => cases mem
  | cons a l ih =>
      rcases List.mem_cons.1 mem with rfl | mem
      · rfl
      · exact ih mem

/-- What is read alike both times has no halves. -/
theorem Twice.halves?_same (s : String) : (same s).halves? = none := by
  have alike : ∀ h ∈ (same s).chars.map half?, h.isNone = true := by
    intro h mem
    obtain ⟨c, among, rfl⟩ := List.mem_map.1 mem
    rw [half?, if_pos (eq_of_mem_zip_self among)]
    rfl
  have all : ((same s).chars.map half? ++ []).takeWhile Option.isNone = _ := List.takeWhile_append_of_pos alike
  rw [List.takeWhile_nil, List.append_nil] at all
  unfold halves?
  dsimp only
  rw [all, List.drop_length]
  rfl

/-- What is wrong with halves in a text that is to be encoded. -/
def Halves.message (h : Halves) : String :=
  let what :=
    if h.others.isEmpty then
      s!"character '{String.ofList (Twice.escape h.first)}' in position {h.start}"
    else s!"characters in position {h.start}-{h.start + h.others.length}"
  s!"'utf-8' codec can't encode {what}: surrogates not allowed"

end Unmark
