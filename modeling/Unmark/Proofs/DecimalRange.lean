import Unmark.Decimal.Binary

/-
Module: Unmark.Proofs.DecimalRange
Layer: Proofs
Purpose: Decimal numbers outside the range of doubles. The count of binary digits of a number bounds it by powers of
  ten, since a hundred thousand binary digits are between 30102 and 30103 decimal ones. A number that is so
  found to be too large or too small has infinity or zero as the double next to it, so answering from the
  count alone changes nothing.
Main exports: Binary.pow_reached_le, Binary.lt_pow_cleared, Binary.ofDecimal_eq_rounded
-/

namespace Unmark.Binary

/-! ### Digits -/

section Places

variable {x y a c : Nat}

/-- A power of `y` is at least a power of `x` with fewer places if this is so for one of them. -/
theorem pow_div_le_pow (base : Nat.pow x a ≤ Nat.pow y c) (some_x : 0 < x) (some_c : 0 < c) (n : Nat) :
    Nat.pow x (n * a / c) ≤ Nat.pow y n := by
  apply Nat.le_of_not_lt
  intro less
  have raised : (y ^ n) ^ c < (x ^ (n * a / c)) ^ c := Nat.pow_lt_pow_left less (Nat.ne_of_gt some_c)
  have bounded : (x ^ (n * a / c)) ^ c ≤ (y ^ n) ^ c :=
    calc (x ^ (n * a / c)) ^ c
        = x ^ (n * a / c * c) := (Nat.pow_mul ..).symm
      _ ≤ x ^ (n * a) := Nat.pow_le_pow_right some_x (Nat.div_mul_le_self _ _)
      _ = (x ^ a) ^ n := by rw [Nat.mul_comm, Nat.pow_mul]
      _ ≤ (y ^ c) ^ n := Nat.pow_le_pow_left base n
      _ = (y ^ n) ^ c := Nat.pow_right_comm ..
  exact Nat.lt_irrefl _ (Nat.lt_of_lt_of_le raised bounded)

/-- A power of `y` is at most a power of `x` with more places if this is so for one of them. -/
theorem pow_le_pow_div_succ (base : Nat.pow y c ≤ Nat.pow x a) (some_x : 0 < x) (some_c : 0 < c) (n : Nat) :
    Nat.pow y n ≤ Nat.pow x (n * a / c + 1) := by
  apply Nat.le_of_not_lt
  intro less
  have places : n * a ≤ (n * a / c + 1) * c :=
    Nat.le_of_lt ((Nat.div_lt_iff_lt_mul some_c).1 (Nat.lt_succ_self _))
  have raised : (x ^ (n * a / c + 1)) ^ c < (y ^ n) ^ c := Nat.pow_lt_pow_left less (Nat.ne_of_gt some_c)
  have bounded : (y ^ n) ^ c ≤ (x ^ (n * a / c + 1)) ^ c :=
    calc (y ^ n) ^ c
        = (y ^ c) ^ n := Nat.pow_right_comm ..
      _ ≤ (x ^ a) ^ n := Nat.pow_le_pow_left base n
      _ = x ^ (n * a) := by rw [Nat.mul_comm, Nat.pow_mul]
      _ ≤ x ^ ((n * a / c + 1) * c) := Nat.pow_le_pow_right some_x places
      _ = (x ^ (n * a / c + 1)) ^ c := Nat.pow_mul ..
  exact Nat.lt_irrefl _ (Nat.lt_of_lt_of_le raised bounded)

end Places

variable {digits : Nat}

/-- A positive number has the digits that it is said to have at least. -/
theorem pow_reached_le (pos : 0 < digits) : Nat.pow 10 (digits.log2 * 30102 / 100000) ≤ digits :=
  calc 10 ^ (digits.log2 * 30102 / 100000)
      ≤ 2 ^ digits.log2 := pow_div_le_pow (by decide +kernel) (by decide) (by decide) _
    _ ≤ digits := Nat.log2_self_le (Nat.ne_of_gt pos)

/-- No number has more digits than it is said to have at most. -/
theorem lt_pow_cleared (digits : Nat) : digits < Nat.pow 10 ((digits.log2 + 1) * 30103 / 100000 + 1) :=
  calc digits
      < 2 ^ (digits.log2 + 1) := Nat.lt_log2_self
    _ ≤ 10 ^ ((digits.log2 + 1) * 30103 / 100000 + 1) :=
      pow_le_pow_div_succ (by decide +kernel) (by decide) (by decide) _

/-! ### Numbers out of range -/

theorem div_le_roundDiv (num den : Nat) : num / den ≤ roundDiv num den := by
  unfold roundDiv
  dsimp only
  split
  · exact Nat.le_refl _
  · split
    · exact Nat.le_succ _
    · split
      · exact Nat.le_refl _
      · exact Nat.le_succ _

/-- Less than a half is rounded to zero. -/
theorem roundDiv_of_small {num den : Nat} (small : 2 * num < den) : roundDiv num den = 0 := by
  have below : num < den := by omega
  unfold roundDiv
  rw [Nat.div_eq_of_lt below, Nat.mod_eq_of_lt below, if_pos small]

section Nearest

variable {num den : Nat}

/-- At an exponent that is no less than that of the last double, a double with all its digits is infinite. -/
theorem toFloat_of_overflow {b : Binary} (normal : hidden ≤ b.significand) (large : 972 ≤ b.exponent) :
    b.toFloat = Float.ofBits (UInt64.ofNat (2047 * Nat.pow 2 52)) := by
  unfold toFloat leastExponent
  dsimp only
  rw [if_neg (Nat.not_lt.2 normal), if_pos (by omega)]

/-- A number with as many digits before its point at an exponent keeps them when it is scaled. -/
theorem hidden_le_scaled (some_den : 0 < den) {e : Nat} (whole : hidden * (den * Nat.pow 2 e) ≤ num) :
    hidden ≤ scaled num den e := by
  have unit : 0 < den * 2 ^ e := Nat.mul_pos some_den (Nat.two_pow_pos e)
  unfold scaled
  rw [if_pos (Int.natCast_nonneg e), Int.toNat_natCast]
  exact Nat.le_trans ((Nat.le_div_iff_mul_le unit).2 whole) (div_le_roundDiv _ _)

/-- The exponent for a large number is large, and leaves all digits of a double before the point. -/
theorem exists_exponentFor_of_log2 (some_num : num ≠ 0) (far : den.log2 + 1025 ≤ num.log2) :
    ∃ e : Nat, exponentFor num den = e ∧ 972 ≤ e ∧ hidden * (den * Nat.pow 2 e) ≤ num := by
  obtain ⟨g, count⟩ : ∃ g : Nat, den.log2 + 53 + g = num.log2 := ⟨num.log2 - den.log2 - 53, by omega⟩
  have guess : (num.log2 : Int) - (den.log2 : Int) - 53 = g := by omega
  have least (e : Nat) : max (e : Int) leastExponent = e := Int.max_eq_left (by unfold leastExponent; omega)
  unfold exponentFor fits
  dsimp only
  rw [guess, if_pos (Int.natCast_nonneg g), Int.toNat_natCast]
  split
  · refine ⟨g, least g, by omega, ?_⟩
    calc hidden * (den * 2 ^ g)
        ≤ 2 ^ 52 * (2 ^ (den.log2 + 1) * 2 ^ g) :=
          Nat.mul_le_mul_left _ (Nat.mul_le_mul_right _ (Nat.le_of_lt Nat.lt_log2_self))
      _ = 2 ^ num.log2 := by
          rw [← Nat.pow_add, ← Nat.pow_add, ← count]
          congr 1
          omega
      _ ≤ num := Nat.log2_self_le some_num
  · rename_i more
    rw [decide_eq_true_eq, Nat.not_lt] at more
    refine ⟨g + 1, least (g + 1), by omega, ?_⟩
    calc hidden * (den * 2 ^ (g + 1))
        = den * 2 ^ g * (hidden * 2) := by
          rw [Nat.pow_succ]
          ac_rfl
      _ ≤ num := more

/-- A number with more digits before its point than any double is nearest to infinity. -/
theorem toFloat_nearest_of_large {w : Nat} (wide : 1025 ≤ w) (some_den : den ≠ 0) (some_num : num ≠ 0)
    (large : den * Nat.pow 2 w ≤ num) :
    (nearest num den).toFloat = Float.ofBits (UInt64.ofNat (2047 * Nat.pow 2 52)) := by
  have far : den.log2 + w ≤ num.log2 := by
    rw [Nat.le_log2 some_num, Nat.pow_add]
    exact Nat.le_trans (Nat.mul_le_mul_right _ (Nat.log2_self_le some_den)) large
  obtain ⟨e, found, above, whole⟩ := exists_exponentFor_of_log2 some_num
    (Nat.le_trans (Nat.add_le_add_left wide _) far)
  unfold nearest
  rw [if_neg some_num, found]
  dsimp only
  split
  · exact toFloat_of_overflow (Nat.le_refl _) (by dsimp only; omega)
  · exact toFloat_of_overflow (hidden_le_scaled (Nat.pos_of_ne_zero some_den) whole) (by dsimp only; omega)

/-- A number with more zeros behind its point than any double is nearest to zero. -/
theorem toFloat_nearest_of_small {w : Nat} (wide : 1076 ≤ w) (some_num : num ≠ 0)
    (small : num * Nat.pow 2 w < den) : (nearest num den).toFloat = Float.ofBits 0 := by
  have some_den : den ≠ 0 := Nat.ne_of_gt (Nat.zero_lt_of_lt small)
  have far : num.log2 + w ≤ den.log2 := by
    rw [Nat.le_log2 some_den, Nat.pow_add]
    exact Nat.le_trans (Nat.mul_le_mul_right _ (Nat.log2_self_le some_num)) (Nat.le_of_lt small)
  have least : exponentFor num den = leastExponent := by
    unfold exponentFor leastExponent
    dsimp only
    split <;> omega
  have half {k : Nat} (within : k + 1 ≤ w) : 2 * (num * Nat.pow 2 k) < den :=
    calc 2 * (num * 2 ^ k)
        = num * 2 ^ (k + 1) := by
          rw [Nat.pow_succ]
          ac_rfl
      _ ≤ num * 2 ^ w := Nat.mul_le_mul_left _ (Nat.pow_le_pow_right (by decide) within)
      _ < den := small
  have within : (-leastExponent).toNat + 1 ≤ w := by
    unfold leastExponent
    omega
  have rounded : scaled num den leastExponent = 0 := by
    unfold scaled
    rw [if_neg (by decide)]
    exact roundDiv_of_small (half within)
  unfold nearest
  rw [if_neg some_num, least]
  dsimp only
  rw [rounded]
  rfl

end Nearest

/-! ### Decimal numbers -/

/-- The double next to `digits · 10^exponent`, found by rounding alone. -/
def rounded (digits : Nat) (exponent : Int) : Float :=
  if exponent ≥ 0 then (nearest (digits * Nat.pow 10 exponent.toNat) 1).toFloat
  else (nearest digits (Nat.pow 10 (-exponent).toNat)).toFloat

section Rounded

variable {exponent : Int}

theorem ten_pow_ne_zero (n : Nat) : Nat.pow 10 n ≠ 0 := Nat.ne_of_gt (Nat.pow_pos (by decide))

/-- A number with 309 digits before its point is rounded to infinity. -/
theorem rounded_of_large {low : Nat} (some_digits : digits ≠ 0) (least : Nat.pow 10 low ≤ digits)
    (large : 309 ≤ exponent + low) :
    rounded digits exponent = Float.ofBits (UInt64.ofNat (2047 * Nat.pow 2 52)) := by
  obtain ⟨w, p, wide, few, within⟩ : ∃ w p, 1025 ≤ w ∧ p ≤ 309 ∧ 2 ^ w ≤ 10 ^ p :=
    ⟨1025, 309, by decide, by decide, by decide +kernel⟩
  unfold rounded
  split
  · refine toFloat_nearest_of_large wide Nat.one_ne_zero (Nat.mul_ne_zero some_digits (ten_pow_ne_zero _)) ?_
    calc 1 * 2 ^ w
        ≤ 10 ^ p := by rwa [Nat.one_mul]
      _ ≤ 10 ^ (low + exponent.toNat) := Nat.pow_le_pow_right (by decide) (by omega)
      _ = 10 ^ low * 10 ^ exponent.toNat := Nat.pow_add ..
      _ ≤ digits * 10 ^ exponent.toNat := Nat.mul_le_mul_right _ least
  · refine toFloat_nearest_of_large wide (ten_pow_ne_zero _) some_digits ?_
    calc 10 ^ (-exponent).toNat * 2 ^ w
        ≤ 10 ^ (-exponent).toNat * 10 ^ p := Nat.mul_le_mul_left _ within
      _ = 10 ^ ((-exponent).toNat + p) := (Nat.pow_add ..).symm
      _ ≤ 10 ^ low := Nat.pow_le_pow_right (by decide) (by omega)
      _ ≤ digits := least

/-- A number with 324 zeros behind its point is rounded to zero. -/
theorem rounded_of_small {high : Nat} (some_digits : digits ≠ 0) (most : digits < Nat.pow 10 high)
    (small : exponent + high ≤ -324) : rounded digits exponent = Float.ofBits 0 := by
  obtain ⟨w, p, wide, few, within⟩ : ∃ w p, 1076 ≤ w ∧ p ≤ 324 ∧ 2 ^ w ≤ 10 ^ p :=
    ⟨1076, 324, by decide, by decide, by decide +kernel⟩
  unfold rounded
  rw [if_neg (by omega)]
  refine toFloat_nearest_of_small wide some_digits ?_
  calc digits * 2 ^ w
      ≤ digits * 10 ^ p := Nat.mul_le_mul_left _ within
    _ < 10 ^ high * 10 ^ p := Nat.mul_lt_mul_of_pos_right most (Nat.pow_pos (by decide))
    _ = 10 ^ (high + p) := (Nat.pow_add ..).symm
    _ ≤ 10 ^ (-exponent).toNat := Nat.pow_le_pow_right (by decide) (by omega)

end Rounded

/-- The double for a decimal number is the one next to it: that numbers out of range are answered from the count of
    their digits changes nothing. -/
theorem ofDecimal_eq_rounded (some_digits : digits ≠ 0) (exponent : Int) :
    ofDecimal digits exponent = rounded digits exponent := by
  have least := pow_reached_le (Nat.pos_of_ne_zero some_digits)
  have most := lt_pow_cleared digits
  unfold ofDecimal
  rw [if_neg some_digits]
  split
  · rename_i large
    exact (rounded_of_large some_digits least large).symm
  · split
    · rename_i small
      exact (rounded_of_small some_digits most small).symm
    · rfl

end Unmark.Binary
