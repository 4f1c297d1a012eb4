/-
Module: Unmark.Decimal.Binary
Layer: Decimal
Purpose: Floating point numbers as exact rationals. A finite double is `m · 2^q` for a natural `m`
  below `2^53` and an integer `q`; `Binary.ofFloat?` reads the pair off the bits and `Binary.nearest`
  finds the double next to a decimal number, ties going to the even significand. All arithmetic is
  exact arithmetic on natural numbers.
Main exports: Binary, Binary.ofFloat?, Binary.nearest
-/

namespace Unmark

/-- The magnitude `significand · 2^exponent` of a finite double. -/
structure Binary where
  significand : Nat
  exponent : Int
deriving DecidableEq, Repr, Inhabited

namespace Binary

/-- The least exponent of a double. -/
def leastExponent : Int := -1074

/-- The significand of the smallest normal double at the least exponent; normal significands lie from
    here to twice as much. -/
def hidden : Nat := Nat.pow 2 52

/-- Sign and magnitude of a finite double; infinities and NaN have none. -/
def ofFloat? (x : Float) : Option (Bool × Binary) :=
  let bits := x.toBits.toNat
  let negative := bits / (Nat.pow 2 63) == 1
  let field := bits / (Nat.pow 2 52) % (Nat.pow 2 11)
  let fraction := bits % (Nat.pow 2 52)
  if field = 2047 then none
  else if field = 0 then some (negative, ⟨fraction, leastExponent⟩)
  else some (negative, ⟨hidden + fraction, leastExponent + (field - 1 : Nat)⟩)

/-- The double with the given magnitude; a significand of `2^53` or an exponent that is too large gives
    infinity. -/
def toFloat (b : Binary) : Float :=
  if b.significand < hidden then Float.ofBits (UInt64.ofNat b.significand)
  else
    let field := (b.exponent - leastExponent).toNat + 1
    if field ≥ 2047 then Float.ofBits (UInt64.ofNat (2047 * (Nat.pow 2 52)))
    else Float.ofBits (UInt64.ofNat (field * (Nat.pow 2 52) + (b.significand - hidden)))

/-- The quotient rounded to the nearest natural number, a tie to the even one. -/
def roundDiv (num den : Nat) : Nat :=
  let q := num / den
  let r := num % den
  if 2 * r < den then q
  else if den < 2 * r then q + 1
  else if q % 2 = 0 then q else q + 1

/-- `num / (den · 2^e)`, rounded. -/
def scaled (num den : Nat) (e : Int) : Nat :=
  if e ≥ 0 then roundDiv num (den * (Nat.pow 2 e.toNat)) else roundDiv (num * (Nat.pow 2 (-e).toNat)) den

/-- Whether `num / (den · 2^e)` has 53 binary digits or fewer before the point. -/
def fits (num den : Nat) (e : Int) : Bool :=
  if e ≥ 0 then num < den * Nat.pow 2 e.toNat * Nat.pow 2 53
  else num * Nat.pow 2 (-e).toNat < den * Nat.pow 2 53

/-- The exponent at which `num / den` has 53 binary digits, or the least exponent if that is larger. -/
def exponentFor (num den : Nat) : Int :=
  let guess : Int := (num.log2 : Int) - (den.log2 : Int) - 53
  max (if fits num den guess then guess else guess + 1) leastExponent

/-- The double nearest to the positive rational `num / den`. Rounding up to `2^53` moves to the next
    exponent. -/
def nearest (num den : Nat) : Binary :=
  if num = 0 then ⟨0, leastExponent⟩
  else
    let e := exponentFor num den
    let m := scaled num den e
    if m = Nat.pow 2 53 then ⟨hidden, e + 1⟩ else ⟨m, e⟩

/-- An exponent of ten that `digits · 10^exponent` reaches, for positive digits. The logarithm of two to the
    base of ten lies between 0.30102 and 0.30103. -/
def reached (digits : Nat) (exponent : Int) : Int := exponent + (digits.log2 * 30102 / 100000 : Nat)

/-- An exponent of ten that `digits · 10^exponent` stays below. -/
def cleared (digits : Nat) (exponent : Int) : Int := exponent + ((digits.log2 + 1) * 30103 / 100000 + 1 : Nat)

/-- The double nearest to `digits · 10^exponent`. Numbers outside the range of doubles are answered from the
    count of their digits alone: doubles end below `10^309`, and what is less than `10^(-324)` is nearer to
    zero than to the least of them. -/
def ofDecimal (digits : Nat) (exponent : Int) : Float :=
  if digits = 0 then Float.ofBits 0
  else if 309 ≤ reached digits exponent then Float.ofBits (UInt64.ofNat (2047 * (Nat.pow 2 52)))
  else if cleared digits exponent ≤ -324 then Float.ofBits 0
  else if exponent ≥ 0 then (nearest (digits * (Nat.pow 10 exponent.toNat)) 1).toFloat
  else (nearest digits (Nat.pow 10 (-exponent).toNat)).toFloat

end Binary

end Unmark
