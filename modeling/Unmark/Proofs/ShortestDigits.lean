import Unmark.Decimal.Shortest

/-
Module: Unmark.Proofs.ShortestDigits
Layer: Proofs
Purpose: The shortest decimal of a double is not zero when the double is not. Zero lies outside the interval
  of a positive double, so no grid answers with it; and should no grid answer at all, the search falls back
  on the last digits of the value, of which there are some from its magnitude downwards.
Main exports: Interval.one_le_floor_iff, one_le_floor_magnitude, digits_shortest_pos
-/

namespace Unmark

namespace Decimal

namespace Interval

variable {i : Interval}

/-- The value has a digit at a place exactly when the unit of this place is at most the value. -/
theorem one_le_floor_iff (den : 0 < i.den) (k : Int) :
    1 ≤ i.floor k ↔ i.den * Nat.pow 10 k.toNat ≤ i.value * Nat.pow 10 (-k).toNat := by
  unfold floor
  split
  case isTrue whole =>
    have none_below : (-k).toNat = 0 := by omega
    have unit : 0 < i.den * 10 ^ k.toNat := Nat.mul_pos den (Nat.pow_pos (by decide))
    rw [none_below, Nat.pow_eq, Nat.pow_eq, Nat.pow_zero, Nat.mul_one, Nat.le_div_iff_mul_le unit, Nat.one_mul]
  case isFalse fraction =>
    have none_above : k.toNat = 0 := by omega
    rw [none_above, Nat.pow_eq, Nat.pow_eq, Nat.pow_zero, Nat.mul_one, Nat.le_div_iff_mul_le den, Nat.one_mul]

/-- A value that has a digit at a place has one at every smaller place. -/
theorem one_le_floor_of_le (den : 0 < i.den) {j k : Int} (smaller : j ≤ k) (digit : 1 ≤ i.floor k) :
    1 ≤ i.floor j := by
  rw [one_le_floor_iff den] at digit ⊢
  have above : 10 ^ j.toNat ≤ 10 ^ k.toNat := Nat.pow_le_pow_right (by decide) (by omega)
  have below : 10 ^ (-k).toNat ≤ 10 ^ (-j).toNat := Nat.pow_le_pow_right (by decide) (by omega)
  calc i.den * 10 ^ j.toNat ≤ i.den * 10 ^ k.toNat := Nat.mul_le_mul_left _ above
    _ ≤ i.value * 10 ^ (-k).toNat := digit
    _ ≤ i.value * 10 ^ (-j).toNat := Nat.mul_le_mul_left _ below

/-- The magnitude is found if there is a digit within reach. -/
theorem one_le_floor_magnitude {least : Int} (digit : 1 ≤ i.floor least) :
    ∀ (fuel : Nat) (e : Int), least ≤ e → e - least ≤ fuel → 1 ≤ i.floor (i.magnitude fuel e)
  | 0, e, above, near => by
      have here : e = least := by omega
      rw [magnitude, here]
      exact digit
  | fuel + 1, e, above, near => by
      rw [magnitude]
      split
      case isTrue found => exact found
      case isFalse missing =>
        have other : e ≠ least := by
          rintro rfl
          exact missing digit
        exact one_le_floor_magnitude digit fuel (e - 1) (by omega) (by omega)

/-- Zero is not in an interval that starts above zero. -/
theorem pos_of_holds (low : 0 < i.low) {n : Nat} {k : Int} (holds : i.holds n k = true) : 0 < n := by
  rcases Nat.eq_zero_or_pos n with rfl | positive
  · have scaled : 0 < i.low * (if k ≥ 0 then 1 else Nat.pow 10 (-k).toNat) := by
      apply Nat.mul_pos low
      split
      · exact Nat.one_pos
      · exact Nat.pow_pos (by decide)
    unfold Interval.holds at holds
    simp only [Nat.zero_mul, ite_self] at holds
    split at holds
    · simp only [Bool.and_eq_true, decide_eq_true_eq] at holds
      omega
    · simp only [Bool.and_eq_true, decide_eq_true_eq] at holds
      omega
  · exact positive

end Interval

/-- The search for a grid never ends at zero. -/
theorem digits_search_pos {i : Interval} {e : Int} (den : 0 < i.den) (low : 0 < i.low)
    (digit : 1 ≤ i.floor e) : ∀ fuel n : Nat, 1 ≤ n → 0 < (search i e fuel n).digits
  | 0, n, some_digit => i.one_le_floor_of_le den (by omega) digit
  | fuel + 1, n, some_digit => by
      have next := digits_search_pos den low digit fuel (n + 1) (by omega)
      rw [search]
      cases left : i.holds (i.floor (e + 1 - n)) (e + 1 - n) with
      | false =>
          cases i.holds (i.floor (e + 1 - n) + 1) (e + 1 - n) with
          | false => exact next
          | true => exact Nat.succ_pos _
      | true =>
          have found := Interval.pos_of_holds low left
          cases i.holds (i.floor (e + 1 - n) + 1) (e + 1 - n) with
          | false => exact found
          | true =>
              simp only
              repeat' split
              all_goals first | exact found | exact Nat.succ_pos _

/-- The interval of a positive double starts above zero. -/
theorem low_interval_pos {b : Binary} (positive : 0 < b.significand) : 0 < (interval b).low := by
  have below : (if b.significand = Binary.hidden ∧ b.exponent ≠ Binary.leastExponent then 1 else 2) ≤ 2 := by
    split <;> decide
  have scale : 0 < (if b.exponent ≥ 0 then Nat.pow 2 b.exponent.toNat else 1) := by
    split
    · exact Nat.pow_pos (by decide)
    · decide
  exact Nat.mul_pos (by omega) scale

theorem den_interval_pos (b : Binary) : 0 < (interval b).den := by
  have scale : 0 < (if b.exponent ≥ 0 then 1 else Nat.pow 2 (-b.exponent).toNat) := by
    split
    · decide
    · exact Nat.pow_pos (by decide)
  exact Nat.mul_pos (by decide) scale

/-- Three binary digits are less than one decimal digit. -/
theorem two_pow_le_ten_pow {n m : Nat} (few : n ≤ 3 * m) : Nat.pow 2 n ≤ Nat.pow 10 m := by
  calc 2 ^ n ≤ 2 ^ (3 * m) := Nat.pow_le_pow_right (by decide) few
    _ = (2 ^ 3) ^ m := Nat.pow_mul 2 3 m
    _ ≤ 10 ^ m := Nat.pow_le_pow_left (by decide) m

/-- A positive number with the exponent `-3m` is at least `10^-m`. -/
theorem one_le_floor_interval {b : Binary} (positive : 0 < b.significand) {m : Nat}
    (range : -(3 * m) ≤ b.exponent) : 1 ≤ (interval b).floor (-m) := by
  have unit : (if b.exponent ≥ 0 then 1 else Nat.pow 2 (-b.exponent).toNat) ≤ 10 ^ m := by
    split
    · exact Nat.one_le_pow _ _ (by decide)
    · exact two_pow_le_ten_pow (by omega)
  have scale : 1 ≤ (if b.exponent ≥ 0 then Nat.pow 2 b.exponent.toNat else 1) := by
    split
    · exact Nat.one_le_pow _ _ (by decide)
    · decide
  have value : 4 ≤ (interval b).value := Nat.mul_le_mul (by omega : 4 ≤ 4 * b.significand) scale
  have above : (-(m : Int)).toNat = 0 := by omega
  have below : (-(-(m : Int))).toNat = m := by omega
  rw [Interval.one_le_floor_iff (den_interval_pos b), above, below]
  calc (interval b).den * 10 ^ 0 = (interval b).den := Nat.mul_one _
    _ ≤ 4 * 10 ^ m := Nat.mul_le_mul_left 4 unit
    _ ≤ (interval b).value * 10 ^ m := Nat.mul_le_mul_right _ value

/-- The shortest decimal of a positive double has a digit other than zero. -/
theorem digits_shortest_pos {b : Binary} (positive : 0 < b.significand)
    (range : Binary.leastExponent ≤ b.exponent) : 0 < (shortest b).digits := by
  have least : -1074 ≤ b.exponent := range
  have some_digit := one_le_floor_interval positive (show -(3 * (358 : Nat)) ≤ b.exponent by omega)
  have magnitude := Interval.one_le_floor_magnitude some_digit 700 330 (by decide) (by decide)
  exact digits_search_pos (den_interval_pos b) (low_interval_pos positive) magnitude 17 1 (by decide)

end Decimal

/-- The exponent of a double is in the range of doubles. -/
theorem Binary.leastExponent_le_of_ofFloat? {x : Float} {negative : Bool} {b : Binary}
    (finite : ofFloat? x = some (negative, b)) : leastExponent ≤ b.exponent := by
  unfold ofFloat? at finite
  simp only at finite
  split at finite
  · cases finite
  · split at finite
    · cases finite
      exact Int.le_refl _
    · cases finite
      simp only
      omega

end Unmark
