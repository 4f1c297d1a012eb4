import Unmark.Markdown.EntityTable

/-
Module: Unmark.Markdown.Entity
Layer: Markdown
Purpose: Character references. A reference is an ampersand, then a decimal number of up to seven
  digits, a hexadecimal number or a name of up to 32 characters, then a semicolon. Numbers that name no
  character, and names that are unknown, have fixed stand-ins; a name that only starts with a known one
  keeps its remainder.
Main exports: Entity.decode, Entity.reference?
-/

namespace Unmark.Markdown.Entity

/-- The characters that the numbers from 128 to 159 stand for, as in the Windows code page for Western
    languages. Numbers without a character there stand for themselves. -/
def windowsCodes : List Nat :=
  [0x20AC, 0x81, 0x201A, 0x192, 0x201E, 0x2026, 0x2020, 0x2021, 0x2C6, 0x2030, 0x160, 0x2039, 0x152,
   0x8D, 0x17D, 0x8F, 0x90, 0x2018, 0x2019, 0x201C, 0x201D, 0x2022, 0x2013, 0x2014, 0x2DC, 0x2122,
   0x161, 0x203A, 0x153, 0x9D, 0x17E, 0x178]

/-- Whether a number stands for nothing: most control codes and the noncharacters. -/
def isVoid (n : Nat) : Bool :=
  (1 ≤ n && n ≤ 8) || n == 0xB || (0xE ≤ n && n ≤ 0x1F) || n == 0x7F
    || (0xFDD0 ≤ n && n ≤ 0xFDEF) || (n % 0x10000 ≥ 0xFFFE)

/-- The text that a numeric reference stands for. -/
def ofNumber (n : Nat) : List Char :=
  if n = 0 then ['\uFFFD']
  else if 0x80 ≤ n ∧ n ≤ 0x9F then [Char.ofNat (windowsCodes.getD (n - 0x80) n)]
  else if (0xD800 ≤ n ∧ n ≤ 0xDFFF) ∨ n > 0x10FFFF then ['\uFFFD']
  else if isVoid n then []
  else [Char.ofNat n]

/-- The text of a name that may be cut short. -/
def cutName? (name : List Char) : Option (List Char) :=
  (cutNames.find? fun e => e.1.toList == name).map fun e => [Char.ofNat e.2]

/-- The text of a name that is spelled out. -/
def wholeName? (name : List Char) : Option (List Char) :=
  (cutName? name).or
    ((fullNames.findSome? fun names => names.find? fun e => e.1.toList == name).map
      fun e => e.2.map Char.ofNat)

/-- The longest known start of a name, of `length` characters at most and two at least, replaced by its
    text. -/
def ofNameStart? (name : List Char) : Nat → Option (List Char)
  | 0 | 1 => none
  | length + 1 =>
    match cutName? (name.take (length + 1)) with
    | some text => some (text ++ name.drop (length + 1))
    | none => ofNameStart? name length

/-- The text that a named reference stands for. A name that does not even start with a known one stands
    for its own spelling. -/
def ofName (name : List Char) : List Char :=
  match wholeName? name with
  | some text => text
  | none =>
    match ofNameStart? name name.length with
    | some text => text ++ [';']
    | none => '&' :: name ++ [';']

/-- Whether a character may stand in a name. -/
def isNameChar (c : Char) : Bool :=
  !(c = '\t' || c = '\n' || c = '\x0c' || c = ' ' || c = '<' || c = '&' || c = '#' || c = ';')

/-- The value of a hexadecimal digit. -/
def hexValue? (c : Char) : Option Nat :=
  if '0' ≤ c ∧ c ≤ '9' then some (c.toNat - 48)
  else if 'a' ≤ c ∧ c ≤ 'f' then some (c.toNat - 87)
  else if 'A' ≤ c ∧ c ≤ 'F' then some (c.toNat - 55)
  else none

/-- The number that digits of a base denote. -/
def number (base : Nat) (digits : List Char) : Nat :=
  digits.foldl (fun n c => n * base + (hexValue? c).getD 0) 0

/-- What follows a semicolon at the start of a text. -/
def afterSemicolon? : List Char → Option (List Char)
  | ';' :: rest => some rest
  | _ => none

/-- The reference that a text continues with after an ampersand: what it stands for, and what follows
    it. -/
def reference? (cs : List Char) : Option (List Char × List Char) :=
  match cs with
  | '#' :: rest =>
    match rest with
    | x :: digits =>
      if x = 'x' ∨ x = 'X' then
        let hex := digits.takeWhile fun c => (hexValue? c).isSome
        if hex.isEmpty then none
        else (afterSemicolon? (digits.drop hex.length)).map fun rest => (ofNumber (number 16 hex), rest)
      else
        let decimal := rest.takeWhile fun c => '0' ≤ c && c ≤ '9'
        if decimal.isEmpty || decimal.length > 7 then none
        else
          (afterSemicolon? (rest.drop decimal.length)).map
            fun rest => (ofNumber (number 10 decimal), rest)
    | [] => none
  | _ =>
    let name := cs.takeWhile isNameChar
    if name.isEmpty || name.length > 32 then none
    else (afterSemicolon? (cs.drop name.length)).map fun rest => (ofName name, rest)

/-- A text with its references replaced. A replacement is not looked at again. The fuel is the length
    of the text. -/
def decodeFrom : Nat → List Char → List Char
  | 0, cs => cs
  | _ + 1, [] => []
  | fuel + 1, c :: cs =>
    if c = '&' then
      match reference? cs with
      | some (text, rest) => text ++ decodeFrom fuel rest
      | none => c :: decodeFrom fuel cs
    else c :: decodeFrom fuel cs

/-- A text with its references replaced. -/
def decodeChars (cs : List Char) : List Char := decodeFrom cs.length cs

/-- A text with its references replaced. -/
def decode (s : String) : String := String.ofList (decodeChars s.toList)

end Unmark.Markdown.Entity
