import Mathlib
import Unmark.Text.Case
import Unmark.Text.Space

/-
Module: Unmark.Proofs.LowerCase
Layer: Proofs
Purpose: What lower case does to the characters of a text, one by one. The images of the runs of the table
  lie apart from the code points that the runs map and from white space, so a text in lower case stays as it
  is in lower case (`lower_lower`), white space stays as it is and no letter becomes white space. That a
  sigma looks at its neighbourhood does not matter to any of this.
Main exports: lowerChar_cases, lowerChar_of_isSpace, isSpace_of_mem_lowerChar, LowersTo, Lowered,
  lowered_lower, lower_lower
-/

namespace Unmark.Text

/-! ### Runs of the table -/

namespace CaseRun

/-- A run maps a code point. -/
def Covers (r : CaseRun) (n : Nat) : Prop := r.first ≤ n ∧ n ≤ r.last ∧ (n - r.first) % r.step = 0

/-- The code point that a run maps a code point to. -/
def image (r : CaseRun) (n : Nat) : Nat := ((n : Int) + r.shift).toNat

/-- The code points that a run maps to, as a run of its own. -/
def target (r : CaseRun) : CaseRun := ⟨r.image r.first, r.image r.last, r.step, 0⟩

/-- Two runs have no code point in common: they lie one behind the other, or they pass each other by in steps
    of two. The comparisons are those of numbers as truth values, for this is evaluated for all pairs of runs. -/
def apart (p q : CaseRun) : Bool :=
  p.last.blt q.first || q.last.blt p.first ||
    (p.step.beq 2 || p.first.beq p.last) && q.step.beq 2 && ((p.first + q.first) % 2).beq 1

theorem not_covers_of_apart {p q : CaseRun} (apart : p.apart q = true) {n : Nat} (covers : p.Covers n) :
    ¬ q.Covers n := by
  obtain ⟨first, last, step⟩ := covers
  rintro ⟨first', last', step'⟩
  simp only [CaseRun.apart, Bool.or_eq_true, Bool.and_eq_true, Nat.blt_eq, Nat.beq_eq] at apart
  rcases apart with (before | behind) | ⟨⟨second | single, second'⟩, parity⟩
  · omega
  · omega
  · rw [second] at step
    rw [second'] at step'
    omega
  · rw [second'] at step'
    omega

theorem covers_target {r : CaseRun} (natural : 0 ≤ (r.first : Int) + r.shift) {n : Nat} (covers : r.Covers n) :
    r.target.Covers (r.image n) := by
  obtain ⟨first, last, step⟩ := covers
  have distance : r.image n - r.image r.first = n - r.first := by
    unfold image
    omega
  refine ⟨?_, ?_, ?_⟩
  · change r.image r.first ≤ r.image n
    unfold image
    omega
  · change r.image n ≤ r.image r.last
    unfold image
    omega
  · change (r.image n - r.image r.first) % r.step = 0
    rw [distance, step]

end CaseRun

theorem runImage?_eq_some {runs : List CaseRun} {n m : Nat} (found : runImage? runs n = some m) :
    ∃ r ∈ runs, r.Covers n ∧ m = r.image n := by
  obtain ⟨r, first, rfl⟩ := Option.map_eq_some_iff.1 found
  have covers := List.find?_some first
  simp only [Bool.and_eq_true, decide_eq_true_eq, beq_iff_eq, and_assoc] at covers
  exact ⟨r, List.mem_of_find?_eq_some first, covers, rfl⟩

/-! ### The table of lower case -/

/-- The ranges of white space. -/
def spaceRanges : List (Nat × Nat) :=
  [(0x09, 0x0D), (0x1C, 0x20), (0x85, 0x85), (0xA0, 0xA0), (0x1680, 0x1680), (0x2000, 0x200A),
   (0x2028, 0x2029), (0x202F, 0x202F), (0x205F, 0x205F), (0x3000, 0x3000)]

theorem isSpace_iff {c : Char} : isSpace c = true ↔ ∃ s ∈ spaceRanges, s.1 ≤ c.toNat ∧ c.toNat ≤ s.2 := by
  simp only [isSpace, Bool.or_eq_true, Bool.and_eq_true, decide_eq_true_eq, beq_iff_eq, spaceRanges,
    List.mem_cons, List.not_mem_nil, or_false, exists_eq_or_imp, exists_eq_left]
  omega

theorem lowerRuns_natural : ∀ r ∈ lowerRuns, 0 ≤ (r.first : Int) + r.shift := by
  decide +kernel

/-- No run leads to a code point that a run maps. -/
theorem targets_apart : ∀ p ∈ lowerRuns.map CaseRun.target, lowerRuns.all p.apart := by
  decide +kernel

theorem targets_valid : ∀ p ∈ lowerRuns.map CaseRun.target,
    p.last < 0xD800 ∨ 0xDFFF < p.first ∧ p.last < 0x110000 := by
  decide +kernel

/-- No run leads to the dotted capital i, which becomes two characters. -/
theorem targets_dotless : ∀ p ∈ lowerRuns.map CaseRun.target, p.last < 0x130 ∨ 0x130 < p.first := by
  decide +kernel

/-- White space lies apart from what runs map and from what they lead to. -/
theorem spaceRanges_apart : ∀ s ∈ spaceRanges,
    ∀ p ∈ lowerRuns ++ lowerRuns.map CaseRun.target, s.2 < p.first ∨ p.last < s.1 := by
  decide +kernel

/-- A character stays as it is, or it is the dotted capital i, or a run maps it. -/
theorem lowerChar_cases (c : Char) : lowerChar c = [c] ∨ c = 'İ' ∧ lowerChar c = ['i', '\u0307'] ∨
    ∃ r ∈ lowerRuns, r.Covers c.toNat ∧ lowerChar c = [Char.ofNat (r.image c.toNat)] := by
  unfold lowerChar
  dsimp only
  split_ifs with below ascii capital dotted
  · exact .inl rfl
  · -- The capital letters of ASCII are the first run.
    exact .inr (.inr ⟨_, List.mem_cons_self, ⟨Nat.le_of_not_lt below, capital, Nat.mod_one _⟩, rfl⟩)
  · exact .inl rfl
  · exact .inr (.inl ⟨Char.toNat_inj.1 dotted, rfl⟩)
  · cases found : runImage? lowerRuns c.toNat with
    | none => exact .inl rfl
    | some m =>
        obtain ⟨r, mem, covers, rfl⟩ := runImage?_eq_some found
        exact .inr (.inr ⟨r, mem, covers, rfl⟩)

section Image

variable {r : CaseRun} (listed : r ∈ lowerRuns) {n : Nat} (covers : r.Covers n)

include listed covers

theorem covers_target_of_listed : r.target.Covers (r.image n) :=
  CaseRun.covers_target (lowerRuns_natural r listed) covers

theorem toNat_image : (Char.ofNat (r.image n)).toNat = r.image n := by
  obtain ⟨first, last, -⟩ := covers_target_of_listed listed covers
  have valid : (r.image n).isValidChar := by
    rcases targets_valid _ (List.mem_map_of_mem listed) with low | ⟨high, top⟩
    · exact .inl (by omega)
    · exact .inr ⟨by omega, by omega⟩
  rw [Char.toNat_ofNat, if_pos valid]

/-- What a run leads to is in lower case. -/
theorem lowerChar_image : lowerChar (Char.ofNat (r.image n)) = [Char.ofNat (r.image n)] := by
  have reached := covers_target_of_listed listed covers
  have number := toNat_image listed covers
  rcases lowerChar_cases (Char.ofNat (r.image n)) with same | ⟨dotted, -⟩ | ⟨q, listed', covers', -⟩
  · exact same
  · have range := targets_dotless _ (List.mem_map_of_mem listed)
    obtain ⟨first, last, -⟩ := reached
    rw [dotted] at number
    change 0x130 = _ at number
    omega
  · rw [number] at covers'
    have apart := List.all_eq_true.1 (targets_apart _ (List.mem_map_of_mem listed)) q listed'
    exact absurd covers' (CaseRun.not_covers_of_apart apart reached)

end Image

/-- What a character becomes in lower case stays as it is in lower case. -/
theorem lowerChar_of_mem_lowerChar {c d : Char} (mem : d ∈ lowerChar c) : lowerChar d = [d] := by
  rcases lowerChar_cases c with same | ⟨-, dotted⟩ | ⟨r, listed, covers, mapped⟩
  · rw [same, List.mem_singleton] at mem
    rw [mem, same]
  · rw [dotted, List.mem_pair] at mem
    rcases mem with rfl | rfl
    · decide +kernel
    · decide +kernel
  · rw [mapped, List.mem_singleton] at mem
    rw [mem]
    exact lowerChar_image listed covers

theorem lowerChar_ne_nil (c : Char) : lowerChar c ≠ [] := by
  rcases lowerChar_cases c with same | ⟨-, dotted⟩ | ⟨r, -, -, mapped⟩
  · rw [same]
    exact List.cons_ne_nil _ _
  · rw [dotted]
    exact List.cons_ne_nil _ _
  · rw [mapped]
    exact List.cons_ne_nil _ _

/-- White space stays as it is in lower case. -/
theorem lowerChar_of_isSpace {c : Char} (space : isSpace c = true) : lowerChar c = [c] := by
  rcases lowerChar_cases c with same | ⟨rfl, -⟩ | ⟨r, listed, covers, -⟩
  · exact same
  · cases space
  · obtain ⟨s, range, first, last⟩ := isSpace_iff.1 space
    obtain ⟨first', last', -⟩ := covers
    have apart := spaceRanges_apart s range r (List.mem_append_left _ listed)
    omega

/-- No letter becomes white space in lower case. -/
theorem isSpace_of_mem_lowerChar {c d : Char} (letter : isSpace c = false) (mem : d ∈ lowerChar c) :
    isSpace d = false := by
  rcases lowerChar_cases c with same | ⟨-, dotted⟩ | ⟨r, listed, covers, mapped⟩
  · rw [same, List.mem_singleton] at mem
    rw [mem, letter]
  · rw [dotted, List.mem_pair] at mem
    rcases mem with rfl | rfl
    · rfl
    · rfl
  · rw [mapped, List.mem_singleton] at mem
    rw [mem, ← Bool.not_eq_true, isSpace_iff]
    rintro ⟨s, range, first, last⟩
    have apart := spaceRanges_apart s range _ (List.mem_append_right _ (List.mem_map_of_mem listed))
    rw [toNat_image listed covers] at first last
    obtain ⟨first', last', -⟩ := covers_target_of_listed listed covers
    omega

/-! ### Texts in lower case -/

/-- What a character may become in lower case: a sigma may become its final form. -/
def LowersTo (c : Char) (image : List Char) : Prop := image = lowerChar c ∨ c = 'Σ' ∧ image = ['ς']

namespace LowersTo

variable {c : Char} {image : List Char} (lowers : LowersTo c image)

include lowers

theorem ne_nil : image ≠ [] := by
  rcases lowers with rfl | ⟨-, rfl⟩
  · exact lowerChar_ne_nil c
  · exact List.cons_ne_nil _ _

theorem lowerChar_of_mem {d : Char} (mem : d ∈ image) : lowerChar d = [d] := by
  rcases lowers with rfl | ⟨-, rfl⟩
  · exact lowerChar_of_mem_lowerChar mem
  · rw [List.mem_singleton] at mem
    rw [mem]
    decide +kernel

theorem eq_of_lowerChar (small : lowerChar c = [c]) : image = [c] := by
  rcases lowers with rfl | ⟨rfl, -⟩
  · exact small
  · exact absurd small (by decide +kernel)

theorem eq_of_isSpace (space : isSpace c = true) : image = [c] :=
  lowers.eq_of_lowerChar (lowerChar_of_isSpace space)

theorem isSpace_of_mem (letter : isSpace c = false) {d : Char} (mem : d ∈ image) : isSpace d = false := by
  rcases lowers with rfl | ⟨-, rfl⟩
  · exact isSpace_of_mem_lowerChar letter mem
  · rw [List.mem_singleton] at mem
    rw [mem]
    rfl

end LowersTo

/-- A text and what may become of it in lower case, character by character. -/
inductive Lowered : List Char → List Char → Prop where
  | nil : Lowered [] []
  | cons {c : Char} {image cs ds : List Char} (here : LowersTo c image) (behind : Lowered cs ds) :
      Lowered (c :: cs) (image ++ ds)

/-- Lower case is one of the ways that the characters of a text allow. -/
theorem lowered_lower (cs : List Char) : Lowered cs (lower cs) := by
  have sigma : lowerChar 'Σ' = ['σ'] := by decide +kernel
  have within : ∀ cs before : List Char, Lowered cs (lowerFrom before cs) := by
    intro cs
    induction cs with
    | nil =>
        intro before
        exact .nil
    | cons c cs ih =>
        intro before
        rw [lowerFrom]
        apply Lowered.cons _ (ih (c :: before))
        split_ifs with is_sigma final
        · exact .inr ⟨is_sigma, rfl⟩
        · rw [is_sigma]
          exact .inl sigma.symm
        · exact .inl rfl
  exact within cs []

namespace Lowered

theorem lowerChar_of_mem {cs ds : List Char} (lowered : Lowered cs ds) {d : Char} (mem : d ∈ ds) :
    lowerChar d = [d] := by
  induction lowered with
  | nil => cases mem
  | cons here behind ih =>
      rcases List.mem_append.1 mem with mem | mem
      · exact here.lowerChar_of_mem mem
      · exact ih mem

theorem eq_of_lowerChar {cs ds : List Char} (lowered : Lowered cs ds) (small : ∀ c ∈ cs, lowerChar c = [c]) :
    ds = cs := by
  induction lowered with
  | nil => rfl
  | cons here behind ih =>
      obtain ⟨first, small⟩ := List.forall_mem_cons.1 small
      rw [here.eq_of_lowerChar first, ih small, List.singleton_append]

/-- What becomes of a text in two parts is in two parts. -/
theorem exists_append {cs cs' ds : List Char} (lowered : Lowered (cs ++ cs') ds) :
    ∃ es es', Lowered cs es ∧ Lowered cs' es' ∧ ds = es ++ es' := by
  induction cs generalizing ds with
  | nil => exact ⟨[], ds, .nil, lowered, rfl⟩
  | cons c cs ih =>
      cases lowered with
      | @cons _ image _ ds here behind =>
          obtain ⟨es, es', front, back, rfl⟩ := ih behind
          exact ⟨image ++ es, es', .cons here front, back, (List.append_assoc ..).symm⟩

end Lowered

/-- A text in lower case stays as it is in lower case. -/
theorem lower_lower (cs : List Char) : lower (lower cs) = lower cs := by
  have small : ∀ d ∈ lower cs, lowerChar d = [d] := fun d mem => (lowered_lower cs).lowerChar_of_mem mem
  exact (lowered_lower (lower cs)).eq_of_lowerChar small

end Unmark.Text
