import Unmark.Text.Digit
import Unmark.Text.Space

/-
Module: Unmark.Text.Integer
Layer: Text
Purpose: The written form of integers to a base: a sign, the mark of the base, and digits of any script or
  letters, with single underscores between them and white space around the whole.
Main exports: integerDigits?, integer?
-/

namespace Unmark.Text

/-- The value of a digit or letter as a digit. -/
def digitOrLetter? (c : Char) : Option Nat :=
  if 'a' ≤ c ∧ c ≤ 'z' then some (c.toNat - 87)
  else if 'A' ≤ c ∧ c ≤ 'Z' then some (c.toNat - 55)
  else digitValue? c

/-- The digits of a text to a base, with single underscores between them. -/
def groupedDigits? (base : Nat) : List Char → Option (List Nat)
  | [] => none
  | [c] => (digitOrLetter? c).bind fun d => if d < base then some [d] else none
  | c :: '_' :: cs => do
    let d ← digitOrLetter? c
    if d < base then return d :: (← groupedDigits? base cs) else none
  | c :: cs => do
    let d ← digitOrLetter? c
    if d < base then return d :: (← groupedDigits? base cs) else none

/-- A text without the mark of a base. -/
def afterBaseMark (base : Nat) (cs : List Char) : List Char :=
  let marked (small capital : Char) : List Char :=
    match cs with
    | '0' :: c :: '_' :: rest => if c = small ∨ c = capital then rest else cs
    | '0' :: c :: rest => if c = small ∨ c = capital then rest else cs
    | _ => cs
  if base = 16 then marked 'x' 'X'
  else if base = 8 then marked 'o' 'O'
  else if base = 2 then marked 'b' 'B'
  else cs

/-- Whether an integer is negative, and its digits. -/
def integerDigits? (base : Nat) (cs : List Char) : Option (Bool × List Nat) :=
  let cs := trim cs
  let (negative, cs) :=
    match cs with
    | '-' :: rest => (true, rest)
    | '+' :: rest => (false, rest)
    | _ => (false, cs)
  (groupedDigits? base (afterBaseMark base cs)).map fun ds => (negative, ds)

/-- The integer that digits to a base denote. -/
def integerOf (base : Nat) (negative : Bool) (digits : List Nat) : Int :=
  let n := digits.foldl (fun n d => n * base + d) 0
  if negative then -(n : Int) else n

/-- The integer that a text denotes. -/
def integer? (base : Nat) (cs : List Char) : Option Int :=
  (integerDigits? base cs).map fun (negative, ds) => integerOf base negative ds

end Unmark.Text
