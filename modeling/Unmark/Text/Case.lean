import Unmark.Text.CaseTable

/-
Module: Unmark.Text.Case
Layer: Text
Purpose: The full case mappings of texts. A character maps by the tables of `CaseTable`, a few to
  several characters. One lower-case mapping looks at its neighbourhood: a capital sigma becomes the
  final form when a letter with case precedes it and none follows, characters without a case of their
  own being passed over.
Main exports: lower, upper
-/

namespace Unmark.Text

/-- Whether a code point lies in one of the ranges. -/
def inRanges (ranges : List (Nat × Nat)) (n : Nat) : Bool :=
  ranges.any fun (a, b) => a ≤ n && n ≤ b

/-- The image of a code point under the runs of a table, if one covers it. -/
def runImage? (runs : List CaseRun) (n : Nat) : Option Nat :=
  (runs.find? fun r => r.first ≤ n && n ≤ r.last && (n - r.first) % r.step == 0).map
    fun r => ((n : Int) + r.shift).toNat

/-- The lower-case form of a character that does not look at its neighbourhood. -/
def lowerChar (c : Char) : List Char :=
  let n := c.toNat
  if n < 0x41 then [c]
  else if n < 0x80 then (if n ≤ 0x5A then [Char.ofNat (n + 32)] else [c])
  else if n = 0x130 then ['i', '\u0307']
  else
    match runImage? lowerRuns n with
    | some m => [Char.ofNat m]
    | none => [c]

/-- The upper-case form of a character. -/
def upperChar (c : Char) : List Char :=
  let n := c.toNat
  if n < 0x61 then [c]
  else if n < 0x80 then (if n ≤ 0x7A then [Char.ofNat (n - 32)] else [c])
  else
    match upperSequences.find? fun e => e.1 == n with
    | some (_, ms) => ms.map Char.ofNat
    | none =>
      match runImage? upperRuns n with
      | some m => [Char.ofNat m]
      | none => [c]

/-- Whether the first character of a text that is not passed over is a letter with case. -/
def casedNext : List Char → Bool
  | [] => false
  | c :: cs =>
    if inRanges caseIgnorableRanges c.toNat then casedNext cs else inRanges casedRanges c.toNat

/-- The lower-case form of the rest of a text, given the characters before it, last one first. -/
def lowerFrom (before : List Char) : List Char → List Char
  | [] => []
  | c :: cs =>
    let image :=
      if c = 'Σ' then (if casedNext before && !casedNext cs then ['ς'] else ['σ'])
      else lowerChar c
    image ++ lowerFrom (c :: before) cs

/-- The lower-case form of a text. -/
def lower (cs : List Char) : List Char := lowerFrom [] cs

/-- The upper-case form of a text. -/
def upper (cs : List Char) : List Char := cs.flatMap upperChar

/-- The lower-case form of a string. -/
def lowerString (s : String) : String := String.ofList (lower s.toList)

/-- The upper-case form of a string. -/
def upperString (s : String) : String := String.ofList (upper s.toList)

end Unmark.Text
