/-
Module: Unmark.Charset.Utf8
Layer: Charset
Purpose: UTF-8. Bytes are split into units: characters, and the longest runs of bytes that start a
  character and do not end it. Encoded surrogates, overlong forms and numbers beyond the last code point
  are none.
Main exports: encodeUtf8, Unit8, units, replaceBad
-/

namespace Unmark.Charset

/-- The bytes of a character. -/
def encodeChar (c : Char) : List UInt8 :=
  let n := c.toNat
  let tail (shift : Nat) : UInt8 := (0x80 + n / Nat.pow 2 shift % 64).toUInt8
  if n < 0x80 then [n.toUInt8]
  else if n < 0x800 then [(0xC0 + n / 64).toUInt8, tail 0]
  else if n < 0x10000 then [(0xE0 + n / 4096).toUInt8, tail 6, tail 0]
  else [(0xF0 + n / 262144).toUInt8, tail 12, tail 6, tail 0]

/-- The bytes of a text. -/
def encodeUtf8 (cs : List Char) : List UInt8 := cs.flatMap encodeChar

/-- What is wrong with bytes that are no character. -/
inductive BadBytes where
  | start
  | continuation
  | unfinished
deriving DecidableEq, Repr, Inhabited

/-- A unit of bytes: a character, or bytes that are none. -/
inductive Unit8 where
  | char (c : Char) (width : Nat)
  | bad (width : Nat) (reason : BadBytes)
deriving DecidableEq, Repr, Inhabited

/-- The number of bytes in a unit. -/
def Unit8.width : Unit8 → Nat
  | char _ width | bad width _ => width

/-- What the first byte of a character says: the bits that it holds, the range in which the second byte
    lies, and the number of bytes after the second. -/
structure Lead where
  bits : Nat
  low : Nat
  high : Nat
  more : Nat

/-- What a byte above the ASCII range says as the first byte of a character. -/
def lead? (b : Nat) : Option Lead :=
  if 0xC2 ≤ b ∧ b ≤ 0xDF then some ⟨b - 0xC0, 0x80, 0xBF, 0⟩
  else if b = 0xE0 then some ⟨0, 0xA0, 0xBF, 1⟩
  else if b = 0xED then some ⟨13, 0x80, 0x9F, 1⟩
  else if 0xE1 ≤ b ∧ b ≤ 0xEF then some ⟨b - 0xE0, 0x80, 0xBF, 1⟩
  else if b = 0xF0 then some ⟨0, 0x90, 0xBF, 2⟩
  else if 0xF1 ≤ b ∧ b ≤ 0xF3 then some ⟨b - 0xF0, 0x80, 0xBF, 2⟩
  else if b = 0xF4 then some ⟨4, 0x80, 0x8F, 2⟩
  else none

/-- Whether a byte goes on with a character. -/
def isTail (b : UInt8) : Bool := 0x80 ≤ b.toNat && b.toNat ≤ 0xBF

/-- The unit at a first byte that starts a character of several bytes, with the bytes after it. -/
def unitAfter (l : Lead) (rest : List UInt8) : Unit8 :=
  match rest with
  | [] => .bad 1 .unfinished
  | b :: rest =>
    if l.low ≤ b.toNat ∧ b.toNat ≤ l.high then
      let two := l.bits * 64 + b.toNat % 64
      if l.more = 0 then .char (Char.ofNat two) 2
      else
        match rest with
        | [] => .bad 2 .unfinished
        | c :: rest =>
          if isTail c then
            let three := two * 64 + c.toNat % 64
            if l.more = 1 then .char (Char.ofNat three) 3
            else
              match rest with
              | [] => .bad 3 .unfinished
              | d :: _ =>
                if isTail d then .char (Char.ofNat (three * 64 + d.toNat % 64)) 4
                else .bad 3 .continuation
          else .bad 2 .continuation
    else .bad 1 .continuation

/-- The unit at the start of bytes. -/
def unitAt (a : UInt8) (rest : List UInt8) : Unit8 :=
  if a.toNat < 0x80 then .char (Char.ofNat a.toNat) 1
  else
    match lead? a.toNat with
    | none => .bad 1 .start
    | some l => unitAfter l rest

/-- The units that bytes consist of, once as many bytes as are still part of the unit before are skipped. -/
def unitsFrom : Nat → List UInt8 → List Unit8
  | _, [] => []
  | skip + 1, _ :: rest => unitsFrom skip rest
  | 0, a :: rest =>
    let u := unitAt a rest
    u :: unitsFrom (u.width - 1) rest

/-- The units that bytes consist of. -/
def units (bs : List UInt8) : List Unit8 := unitsFrom 0 bs

/-- The text of bytes, with one replacement character for every unit that is no character. -/
def replaceBad (bs : List UInt8) : List Char :=
  (units bs).map fun
    | .char c _ => c
    | .bad .. => '\ufffd'

end Unmark.Charset
