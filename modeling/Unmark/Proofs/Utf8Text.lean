import Mathlib.Tactic.SplitIfs
import Unmark.Charset.Codec

/-
Module: Unmark.Proofs.Utf8Text
Layer: Proofs
Purpose: Texts come back from their bytes in UTF-8. The first byte of a character tells how many bytes it takes
  and leaves out what is no character, so the bytes of a character are one unit whatever comes behind them.
  ASCII is a part of UTF-8: what is text in the one is the same text in the other.
Main exports: units_encodeChar, decodeUtf8_encodeUtf8, decodeUtf8_of_ascii
-/

namespace Unmark.Charset

/-! ### The bytes of one character -/

theorem toNat_toUInt8 {n : Nat} (small : n < 256) : n.toUInt8.toNat = n := by
  simpa using small

/-- A number as the last six bits of a byte that goes on with a character. -/
def tailByte (n : Nat) : UInt8 := (0x80 + n % 64).toUInt8

theorem toNat_tailByte (n : Nat) : (tailByte n).toNat = 0x80 + n % 64 := toNat_toUInt8 (by omega)

theorem isTail_tailByte (n : Nat) : isTail (tailByte n) = true := by
  rw [isTail, toNat_tailByte, Bool.and_eq_true, decide_eq_true_eq, decide_eq_true_eq]
  omega

theorem encodeChar_eq (c : Char) : encodeChar c =
    if c.toNat < 0x80 then [c.toNat.toUInt8]
    else if c.toNat < 0x800 then [(0xC0 + c.toNat / 64).toUInt8, tailByte c.toNat]
    else if c.toNat < 0x10000 then
      [(0xE0 + c.toNat / 4096).toUInt8, tailByte (c.toNat / 64), tailByte c.toNat]
    else [(0xF0 + c.toNat / 262144).toUInt8, tailByte (c.toNat / 4096), tailByte (c.toNat / 64),
      tailByte c.toNat] := by
  have ones : ∀ n, n / Nat.pow 2 0 = n := Nat.div_one
  simp only [encodeChar, tailByte, ones]

theorem lead?_two {n : Nat} (low : 0x80 ≤ n) (high : n < 0x800) :
    lead? (0xC0 + n / 64) = some ⟨n / 64, 0x80, 0xBF, 0⟩ := by
  rw [lead?, if_pos (by omega), Nat.add_sub_cancel_left]

/-- The first byte of three leaves out the surrogates and the numbers that take fewer bytes. -/
theorem lead?_three {n : Nat} (low : 0x800 ≤ n) (high : n < 0x10000) (whole : n < 0xD800 ∨ 0xDFFF < n) :
    ∃ l : Lead, lead? (0xE0 + n / 4096) = some l ∧ l.bits = n / 4096 ∧ l.more = 1 ∧
      l.low ≤ 0x80 + n / 64 % 64 ∧ 0x80 + n / 64 % 64 ≤ l.high := by
  rw [lead?, if_neg (by omega)]
  by_cases first : 0xE0 + n / 4096 = 0xE0
  · rw [if_pos first]
    refine ⟨_, rfl, ?_, rfl, ?_, ?_⟩ <;> dsimp only <;> omega
  · rw [if_neg first]
    by_cases gap : 0xE0 + n / 4096 = 0xED
    · rw [if_pos gap]
      refine ⟨_, rfl, ?_, rfl, ?_, ?_⟩ <;> dsimp only <;> omega
    · rw [if_neg gap, if_pos (by omega)]
      refine ⟨_, rfl, ?_, rfl, ?_, ?_⟩ <;> dsimp only <;> omega

/-- The first byte of four leaves out the numbers that take fewer bytes and those beyond the last character. -/
theorem lead?_four {n : Nat} (low : 0x10000 ≤ n) (high : n < 0x110000) :
    ∃ l : Lead, lead? (0xF0 + n / 262144) = some l ∧ l.bits = n / 262144 ∧ l.more = 2 ∧
      l.low ≤ 0x80 + n / 4096 % 64 ∧ 0x80 + n / 4096 % 64 ≤ l.high := by
  rw [lead?, if_neg (by omega), if_neg (by omega), if_neg (by omega), if_neg (by omega)]
  by_cases first : 0xF0 + n / 262144 = 0xF0
  · rw [if_pos first]
    refine ⟨_, rfl, ?_, rfl, ?_, ?_⟩ <;> dsimp only <;> omega
  · rw [if_neg first]
    by_cases last : 0xF0 + n / 262144 = 0xF4
    · rw [if_neg (by omega), if_pos last]
      refine ⟨_, rfl, ?_, rfl, ?_, ?_⟩ <;> dsimp only <;> omega
    · rw [if_pos (by omega)]
      refine ⟨_, rfl, ?_, rfl, ?_, ?_⟩ <;> dsimp only <;> omega

theorem unitAt_ascii {n : Nat} (ascii : n < 0x80) (rest : List UInt8) :
    unitAt n.toUInt8 rest = .char (Char.ofNat n) 1 := by
  rw [unitAt, toNat_toUInt8 (by omega), if_pos ascii]

theorem unitAt_two {n : Nat} (low : 0x80 ≤ n) (high : n < 0x800) (rest : List UInt8) :
    unitAt (0xC0 + n / 64).toUInt8 (tailByte n :: rest) = .char (Char.ofNat n) 2 := by
  have number : n / 64 * 64 + (0x80 + n % 64) % 64 = n := by omega
  rw [unitAt, toNat_toUInt8 (by omega), if_neg (by omega), lead?_two low high]
  simp only [unitAfter, toNat_tailByte, number]
  rw [if_pos (by omega), if_pos trivial]

theorem unitAt_three {n : Nat} (low : 0x800 ≤ n) (high : n < 0x10000) (whole : n < 0xD800 ∨ 0xDFFF < n)
    (rest : List UInt8) :
    unitAt (0xE0 + n / 4096).toUInt8 (tailByte (n / 64) :: tailByte n :: rest) = .char (Char.ofNat n) 3 := by
  obtain ⟨l, leads, bits, more, second⟩ := lead?_three low high whole
  have number : (n / 4096 * 64 + (0x80 + n / 64 % 64) % 64) * 64 + (0x80 + n % 64) % 64 = n := by omega
  rw [unitAt, toNat_toUInt8 (by omega), if_neg (by omega), leads]
  simp only [unitAfter, toNat_tailByte, isTail_tailByte, bits, more, number]
  rw [if_pos second, if_neg (by decide), if_pos trivial, if_pos trivial]

theorem unitAt_four {n : Nat} (low : 0x10000 ≤ n) (high : n < 0x110000) (rest : List UInt8) :
    unitAt (0xF0 + n / 262144).toUInt8 (tailByte (n / 4096) :: tailByte (n / 64) :: tailByte n :: rest) =
      .char (Char.ofNat n) 4 := by
  obtain ⟨l, leads, bits, more, second⟩ := lead?_four low high
  have number : ((n / 262144 * 64 + (0x80 + n / 4096 % 64) % 64) * 64 + (0x80 + n / 64 % 64) % 64) * 64 +
      (0x80 + n % 64) % 64 = n := by omega
  rw [unitAt, toNat_toUInt8 (by omega), if_neg (by omega), leads]
  simp only [unitAfter, toNat_tailByte, isTail_tailByte, bits, more, number]
  rw [if_pos second, if_neg (by decide), if_pos trivial, if_neg (by decide), if_pos trivial]

/-- Bytes that are still part of the unit before are skipped. -/
theorem unitsFrom_append : ∀ (skipped rest : List UInt8),
    unitsFrom skipped.length (skipped ++ rest) = unitsFrom 0 rest
  | [], _ => rfl
  | _ :: skipped, rest => unitsFrom_append skipped rest

theorem units_of_unitAt {a : UInt8} (more : List UInt8) {rest : List UInt8} {c : Char}
    (unit : unitAt a (more ++ rest) = .char c (more.length + 1)) :
    units (a :: more ++ rest) = .char c (more.length + 1) :: units rest := by
  rw [List.cons_append, units, unitsFrom, unit]
  dsimp only [Unit8.width]
  rw [Nat.add_sub_cancel, unitsFrom_append]
  rfl

/-- The bytes of a character are a unit, whatever comes behind them. -/
theorem units_encodeChar (c : Char) (rest : List UInt8) :
    units (encodeChar c ++ rest) = .char c (encodeChar c).length :: units rest := by
  have valid : c.toNat < 0xD800 ∨ 0xDFFF < c.toNat ∧ c.toNat < 0x110000 := c.valid
  suffices unit : units (encodeChar c ++ rest) =
      .char (Char.ofNat c.toNat) (encodeChar c).length :: units rest by
    rwa [Char.ofNat_toNat] at unit
  rw [encodeChar_eq]
  split_ifs with one two three
  · exact units_of_unitAt _ (unitAt_ascii one _)
  · exact units_of_unitAt _ (unitAt_two (Nat.le_of_not_lt one) two _)
  · exact units_of_unitAt _ (unitAt_three (Nat.le_of_not_lt two) three (valid.imp_right And.left) _)
  · exact units_of_unitAt _ (unitAt_four (Nat.le_of_not_lt three) (by omega) _)

/-! ### Decoding -/

/-- Units that are characters are a text, whatever their widths are. -/
theorem strictText_chars (bs : List UInt8) (width : Char → Nat) (cs : List Char) (place : Nat) :
    strictText bs place (cs.map fun c => .char c (width c)) = .ok cs := by
  induction cs generalizing place with
  | nil => rfl
  | cons c cs ih =>
      rw [List.map_cons, strictText, ih]
      rfl

theorem units_encodeUtf8 (cs : List Char) :
    units (encodeUtf8 cs) = cs.map fun c => .char c (encodeChar c).length := by
  induction cs with
  | nil => rfl
  | cons c cs ih =>
      rw [encodeUtf8, List.flatMap_cons, units_encodeChar, List.map_cons, ← ih]
      rfl

/-- The text of the bytes of a text is this text. -/
theorem decodeUtf8_encodeUtf8 (cs : List Char) : decodeUtf8 (encodeUtf8 cs) = .ok cs := by
  rw [decodeUtf8, units_encodeUtf8, strictText_chars]

theorem units_of_ascii (bs : List UInt8) : ∀ {place : Nat} {cs : List Char},
    decodeBytes "ascii" "ordinal not in range(128)"
      (fun b => if b.toNat < 128 then some (Char.ofNat b.toNat) else none) place bs = .ok cs →
    units bs = cs.map fun c => .char c 1 := by
  induction bs with
  | nil =>
      intro place cs read
      cases read
      rfl
  | cons b bs ih =>
      intro place cs read
      unfold decodeBytes at read
      by_cases ascii : b.toNat < 128
      · rw [if_pos ascii] at read
        dsimp only at read
        cases rest : decodeBytes "ascii" "ordinal not in range(128)"
            (fun b => if b.toNat < 128 then some (Char.ofNat b.toNat) else none) (place + 1) bs with
        | error r =>
            rw [rest] at read
            cases read
        | ok cs' =>
            rw [rest] at read
            cases read
            have unit := unitAt_ascii ascii bs
            rw [show b.toNat.toUInt8 = b from UInt8.ofNat_toNat] at unit
            rw [List.map_cons, ← ih rest]
            exact units_of_unitAt [] unit
      · rw [if_neg ascii] at read
        cases read

/-- Bytes that are text in ASCII are the same text in UTF-8. -/
theorem decodeUtf8_of_ascii {bs : List UInt8} {cs : List Char} (read : Codec.ascii.decode bs = .ok cs) :
    decodeUtf8 bs = .ok cs := by
  rw [decodeUtf8, units_of_ascii bs read, strictText_chars bs fun _ => 1]

end Unmark.Charset
