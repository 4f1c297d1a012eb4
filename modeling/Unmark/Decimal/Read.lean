import Unmark.Decimal.Binary
import Unmark.Text.Case
import Unmark.Text.Digit
import Unmark.Text.Space

/-
Module: Unmark.Decimal.Read
Layer: Decimal
Purpose: Reading a double from text: a sign, digits with a point among them and an exponent after them, or
  a word for infinity or for what is no number. The double nearest to the decimal is taken.
Main exports: Binary.read?
-/

namespace Unmark.Binary

/-- The integer of an exponent's digits, if there are any and nothing follows. -/
def exponent? (cs : List Char) : Option Int :=
  let (negative, cs) :=
    match cs with
    | '-' :: rest => (true, rest)
    | '+' :: rest => (false, rest)
    | _ => (false, cs)
  if cs.isEmpty || !cs.all Text.isDigit then none
  else
    let n : Int := Text.natOfDigits cs
    some (if negative then -n else n)

/-- A decimal without a sign. -/
def decimal? (cs : List Char) : Option Float :=
  let whole := cs.takeWhile Text.isDigit
  let rest := cs.drop whole.length
  let (fraction, rest) :=
    match rest with
    | '.' :: rest => (rest.takeWhile Text.isDigit, rest.dropWhile Text.isDigit)
    | _ => ([], rest)
  let digits := whole ++ fraction
  if digits.isEmpty then none
  else
    let shift : Option Int :=
      match rest with
      | [] => some 0
      | 'e' :: rest => exponent? rest
      | _ => none
    shift.map fun e => ofDecimal (Text.natOfDigits digits) (e - fraction.length)

/-- The double that a text denotes. -/
def read? (cs : List Char) : Option Float :=
  let cs := (Text.trim cs).map Char.toLower
  let (negative, cs) :=
    match cs with
    | '-' :: rest => (true, rest)
    | '+' :: rest => (false, rest)
    | _ => (false, cs)
  let signed (x : Float) : Float := if negative then -x else x
  let word := String.ofList cs
  if word = "inf" ∨ word = "infinity" then some (signed (1.0 / 0.0))
  else if word = "nan" then some (0.0 / 0.0)
  else (decimal? cs).map signed

end Unmark.Binary
