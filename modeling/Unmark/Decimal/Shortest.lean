import Unmark.Decimal.Binary

/-
Module: Unmark.Decimal.Shortest
Layer: Decimal
Purpose: The decimal text of a double: the fewest digits that read back as the same double, and among
  those the ones nearest to its value. The search is exact: for one digit, two digits, and so on, the
  two neighbours of the value on the decimal grid of that many digits are tested against the interval
  of reals that round to the double. How the digits are then laid out is one record, `DecimalStyle`.
Main exports: Decimal, Decimal.shortest, DecimalStyle, DecimalStyle.write, floatText
-/

namespace Unmark

/-- The number `digits · 10^exponent`. -/
structure Decimal where
  digits : Nat
  exponent : Int
deriving DecidableEq, Repr, Inhabited

namespace Decimal

/-- The reals that round to a double, between two bounds over a common denominator, together with the
    value itself. -/
structure Interval where
  low : Nat
  value : Nat
  high : Nat
  den : Nat
  closed : Bool

/-- The interval of a positive double. The gap below a power of two is half the gap above it. A bound
    belongs to the interval when the significand is even. -/
def interval (b : Binary) : Interval :=
  let below := if b.significand = Binary.hidden ∧ b.exponent ≠ Binary.leastExponent then 1 else 2
  let scale := if b.exponent ≥ 0 then Nat.pow 2 b.exponent.toNat else 1
  let den := if b.exponent ≥ 0 then 1 else Nat.pow 2 (-b.exponent).toNat
  { low := (4 * b.significand - below) * scale
    value := 4 * b.significand * scale
    high := (4 * b.significand + 2) * scale
    den := 4 * den
    closed := b.significand % 2 = 0 }

/-- Whether `n · 10^k` lies in an interval. -/
def Interval.holds (i : Interval) (n : Nat) (k : Int) : Bool :=
  let x := if k ≥ 0 then n * (Nat.pow 10 k.toNat) * i.den else n * i.den
  let s := if k ≥ 0 then 1 else Nat.pow 10 (-k).toNat
  if i.closed then i.low * s ≤ x && x ≤ i.high * s else i.low * s < x && x < i.high * s

/-- Twice the distance of `n · 10^k` to the value, in units that depend on `k` alone. -/
def Interval.distance (i : Interval) (n : Nat) (k : Int) : Nat :=
  let x := if k ≥ 0 then n * (Nat.pow 10 k.toNat) * i.den else n * i.den
  let v := if k ≥ 0 then i.value else i.value * (Nat.pow 10 (-k).toNat)
  (x - v) + (v - x)

/-- The largest `n` with `n · 10^k` at most the value. -/
def Interval.floor (i : Interval) (k : Int) : Nat :=
  if k ≥ 0 then i.value / (i.den * (Nat.pow 10 k.toNat)) else i.value * (Nat.pow 10 (-k).toNat) / i.den

/-- The exponent `e` with `10^e ≤ value < 10^(e + 1)`, sought downwards from a bound. -/
def Interval.magnitude (i : Interval) : Nat → Int → Int
  | 0, e => e
  | fuel + 1, e => if i.floor e ≥ 1 then e else i.magnitude fuel (e - 1)

/-- The first grid with a point in the interval, from the given number of digits on. -/
def search (i : Interval) (e : Int) : Nat → Nat → Decimal
  | 0, n => ⟨i.floor (e + 1 - n), e + 1 - n⟩
  | fuel + 1, n =>
    let k := e + 1 - n
    let lo := i.floor k
    let hi := lo + 1
    match i.holds lo k, i.holds hi k with
    | true, false => ⟨lo, k⟩
    | false, true => ⟨hi, k⟩
    | false, false => search i e fuel (n + 1)
    | true, true =>
      let dl := i.distance lo k
      let dh := i.distance hi k
      if dl < dh then ⟨lo, k⟩
      else if dh < dl then ⟨hi, k⟩
      else if lo % 2 = 0 then ⟨lo, k⟩ else ⟨hi, k⟩

/-- The shortest decimal that reads back as the given positive double. -/
def shortest (b : Binary) : Decimal :=
  let i := interval b
  search i (i.magnitude 700 330) 17 1

end Decimal

/-- How the digits of a double are laid out. The decimal point stands after the first digit when the
    exponent of that digit lies outside `positional`. -/
structure DecimalStyle where
  least : Int
  most : Int
  pointZero : Bool
  exponentMark : String
  exponentWidth : Nat
  infinity : String
  nan : String

namespace DecimalStyle

/-- A natural number with at least `width` digits. -/
def padded (width n : Nat) : String :=
  let s := toString n
  String.ofList (List.replicate (width - s.length) '0') ++ s

/-- The digits of a decimal without zeros at the end. -/
def trimmed (d : Decimal) : List Char :=
  ((toString d.digits).toList.reverse.dropWhile (· = '0')).reverse

/-- The text of a positive decimal. -/
def layOut (style : DecimalStyle) (d : Decimal) : String :=
  let all := (toString d.digits).toList
  let lead : Int := d.exponent + all.length - 1
  let ds := trimmed d
  if lead < style.least ∨ style.most < lead then
    let fraction := ds.drop 1
    let mantissa := ds.take 1 ++ (if fraction.isEmpty then [] else '.' :: fraction)
    let sign := if lead < 0 then "-" else "+"
    String.ofList mantissa ++ style.exponentMark ++ sign ++ padded style.exponentWidth lead.natAbs
  else if lead < 0 then
    "0." ++ String.ofList (List.replicate (-lead - 1).toNat '0' ++ ds)
  else
    let whole := lead.toNat + 1
    let head := ds.take whole ++ List.replicate (whole - ds.length) '0'
    let tail := ds.drop whole
    String.ofList head ++
      (if tail.isEmpty then (if style.pointZero then ".0" else "") else "." ++ String.ofList tail)

/-- The text of a double. -/
def write (style : DecimalStyle) (x : Float) : String :=
  match Binary.ofFloat? x with
  | none =>
    if x.isNaN then style.nan
    else if x < 0.0 then "-" ++ style.infinity else style.infinity
  | some (negative, b) =>
    let sign := if negative then "-" else ""
    if b.significand = 0 then sign ++ (if style.pointZero then "0.0" else "0")
    else sign ++ style.layOut (Decimal.shortest b)

end DecimalStyle

/-- Numbers from `10^-4` up to `10^16` are written positionally and show a fraction; the rest have an
    exponent of at least two digits with its sign. -/
def plainStyle : DecimalStyle :=
  { least := -4, most := 15, pointZero := true, exponentMark := "e", exponentWidth := 2,
    infinity := "inf", nan := "nan" }

/-- The text of a double outside of any format. -/
def floatText (x : Float) : String := plainStyle.write x

end Unmark
