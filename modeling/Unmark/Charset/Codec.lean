import Unmark.Charset.Utf8
import Unmark.Text.Case
import Unmark.Text.Quoted

/-
Module: Unmark.Charset.Codec
Layer: Charset
Purpose: The character encodings that a text may be in, by name, and the reading of bytes in each. Bytes that
  are no text in an encoding are refused with their place and the reason.
Main exports: Codec, Codec.ofName?, Codec.decode, Refusal, Refusal.message
-/

namespace Unmark.Charset

/-- The order of the bytes in a code unit. -/
inductive ByteOrder where
  | little
  | big
deriving DecidableEq, Repr, Inhabited

/-- A character encoding. A wide one without a fixed order starts with a mark that tells it, and has the
    little end first if it does not. -/
inductive Codec where
  | ascii
  | utf8
  /-- UTF-8 with an optional mark at its start. -/
  | markedUtf8
  | latin1
  | windows1252
  | utf16 (order : Option ByteOrder)
  | utf32 (order : Option ByteOrder)
deriving DecidableEq, Repr, Inhabited

namespace Codec

/-- The names of the encodings, in small letters and with underscores. -/
def names : List (String × Codec) :=
  [("ascii", ascii), ("us_ascii", ascii), ("646", ascii),
   ("utf_8", utf8), ("utf8", utf8), ("u8", utf8), ("utf", utf8), ("cp65001", utf8),
   ("utf_8_sig", markedUtf8),
   ("latin_1", latin1), ("latin1", latin1), ("latin", latin1), ("l1", latin1), ("iso_8859_1", latin1),
   ("iso8859_1", latin1), ("iso8859", latin1), ("8859", latin1), ("cp819", latin1),
   ("cp1252", windows1252), ("windows_1252", windows1252), ("1252", windows1252),
   ("utf_16", utf16 none), ("utf16", utf16 none), ("u16", utf16 none),
   ("utf_16_le", utf16 (some .little)), ("utf_16le", utf16 (some .little)),
   ("utf_16_be", utf16 (some .big)), ("utf_16be", utf16 (some .big)),
   ("utf_32", utf32 none), ("utf32", utf32 none), ("u32", utf32 none),
   ("utf_32_le", utf32 (some .little)), ("utf_32le", utf32 (some .little)),
   ("utf_32_be", utf32 (some .big)), ("utf_32be", utf32 (some .big))]

/-- A name in the form in which names are compared. -/
def plainName (name : String) : String :=
  String.ofList ((Text.lower name.toList).map fun c => if c = '-' ∨ c = ' ' then '_' else c)

/-- The encoding with a name. -/
def ofName? (name : String) : Option Codec := names.lookup (plainName name)

end Codec

/-- Why bytes are no text: the encoding, the range of bytes, the first of them, and the reason. -/
structure Refusal where
  codec : String
  start : Nat
  stop : Nat
  byte : UInt8
  reason : String
deriving DecidableEq, Repr, Inhabited

/-- The wording of a refusal. -/
def Refusal.message (r : Refusal) : String :=
  if r.stop = r.start + 1 then
    let byte := String.ofList (Text.hexDigits 2 r.byte.toNat)
    s!"'{r.codec}' codec can't decode byte 0x{byte} in position {r.start}: {r.reason}"
  else
    let last := r.stop - 1
    s!"'{r.codec}' codec can't decode bytes in position {r.start}-{last}: {r.reason}"

def BadBytes.text : BadBytes → String
  | start => "invalid start byte"
  | continuation => "invalid continuation byte"
  | unfinished => "unexpected end of data"

/-- The characters of units that are all characters. `place` is the number of bytes before them. -/
def strictText (bs : List UInt8) (place : Nat) : List Unit8 → Except Refusal (List Char)
  | [] => .ok []
  | .char c width :: us => (strictText bs (place + width) us).map (c :: ·)
  | .bad width reason :: _ => .error ⟨"utf-8", place, place + width, bs.getD place 0, reason.text⟩

/-- The text of bytes in UTF-8. -/
def decodeUtf8 (bs : List UInt8) : Except Refusal (List Char) := strictText bs 0 (units bs)

/-- The bytes after a mark at their start. -/
def afterMark (bs : List UInt8) : List UInt8 :=
  match bs with
  | 0xEF :: 0xBB :: 0xBF :: rest => rest
  | _ => bs

/-- The text of bytes of which each is one character. `none` means that a byte is no character. -/
def decodeBytes (codec reason : String) (char? : UInt8 → Option Char) (place : Nat) :
    List UInt8 → Except Refusal (List Char)
  | [] => .ok []
  | b :: bs =>
    match char? b with
    | some c => (decodeBytes codec reason char? (place + 1) bs).map (c :: ·)
    | none => .error ⟨codec, place, place + 1, b, reason⟩

/-- The characters of the bytes from 128 to 159 in the Windows encoding; five of them are none. -/
def windowsTable : List (Option Char) :=
  [some '€', none, some '‚', some 'ƒ', some '„', some '…', some '†', some '‡', some 'ˆ', some '‰',
   some 'Š', some '‹', some 'Œ', none, some 'Ž', none, none, some '‘', some '’', some '“', some '”',
   some '•', some '–', some '—', some '˜', some '™', some 'š', some '›', some 'œ', none, some 'ž',
   some 'Ÿ']

/-- The character of a byte in the Windows encoding. -/
def windowsChar? (b : UInt8) : Option Char :=
  let n := b.toNat
  if 128 ≤ n ∧ n < 160 then windowsTable.getD (n - 128) none else some (Char.ofNat n)

/-- The number of two bytes. -/
def pair (order : ByteOrder) (a b : UInt8) : Nat :=
  match order with
  | .little => a.toNat + 256 * b.toNat
  | .big => 256 * a.toNat + b.toNat

def ByteOrder.suffix : ByteOrder → String
  | little => "le"
  | big => "be"

def isHighHalf (n : Nat) : Bool := 0xD800 ≤ n && n < 0xDC00

def isLowHalf (n : Nat) : Bool := 0xDC00 ≤ n && n < 0xE000

/-- The text of bytes in code units of two. A character beyond the first 65536 takes a high and a low
    half. -/
def decodePairs (order : ByteOrder) (place : Nat) : List UInt8 → Except Refusal (List Char)
  | [] => .ok []
  | [a] => .error ⟨"utf-16-" ++ order.suffix, place, place + 1, a, "truncated data"⟩
  | a :: b :: rest =>
    let n := pair order a b
    let refuse (stop : Nat) (reason : String) : Except Refusal (List Char) :=
      .error ⟨"utf-16-" ++ order.suffix, place, stop, a, reason⟩
    if isLowHalf n then refuse (place + 2) "illegal encoding"
    else if isHighHalf n then
      match rest with
      | c :: d :: rest =>
        let m := pair order c d
        if isLowHalf m then
          (decodePairs order (place + 4) rest).map
            (Char.ofNat (0x10000 + (n - 0xD800) * 1024 + (m - 0xDC00)) :: ·)
        else refuse (place + 2) "illegal UTF-16 surrogate"
      | _ => refuse (place + 2 + rest.length) "unexpected end of data"
    else (decodePairs order (place + 2) rest).map (Char.ofNat n :: ·)

/-- The text of bytes in code units of four. -/
def decodeQuads (order : ByteOrder) (place : Nat) : List UInt8 → Except Refusal (List Char)
  | a :: b :: c :: d :: rest =>
    let n :=
      match order with
      | .little => pair .little a b + 65536 * pair .little c d
      | .big => 65536 * pair .big a b + pair .big c d
    let refuse (reason : String) : Except Refusal (List Char) :=
      .error ⟨"utf-32-" ++ order.suffix, place, place + 4, a, reason⟩
    if 0x110000 ≤ n then refuse "code point not in range(0x110000)"
    else if isHighHalf n || isLowHalf n then
      refuse "code point in surrogate code point range(0xd800, 0xe000)"
    else (decodeQuads order (place + 4) rest).map (Char.ofNat n :: ·)
  | [] => .ok []
  | a :: rest =>
    .error ⟨"utf-32-" ++ order.suffix, place, place + 1 + rest.length, a, "truncated data"⟩

namespace Codec

/-- The text of bytes in an encoding. -/
def decode (codec : Codec) (bs : List UInt8) : Except Refusal (List Char) :=
  match codec with
  | ascii =>
    decodeBytes "ascii" "ordinal not in range(128)"
      (fun b => if b.toNat < 128 then some (Char.ofNat b.toNat) else none) 0 bs
  | utf8 => decodeUtf8 bs
  | markedUtf8 => decodeUtf8 (afterMark bs)
  | latin1 => .ok (bs.map fun b => Char.ofNat b.toNat)
  | windows1252 => decodeBytes "charmap" "character maps to <undefined>" windowsChar? 0 bs
  | utf16 (some order) => decodePairs order 0 bs
  | utf16 none =>
    match bs with
    | 0xFF :: 0xFE :: rest => decodePairs .little 2 rest
    | 0xFE :: 0xFF :: rest => decodePairs .big 2 rest
    | _ => decodePairs .little 0 bs
  | utf32 (some order) => decodeQuads order 0 bs
  | utf32 none =>
    match bs with
    | 0xFF :: 0xFE :: 0 :: 0 :: rest => decodeQuads .little 4 rest
    | 0 :: 0 :: 0xFE :: 0xFF :: rest => decodeQuads .big 4 rest
    | _ => decodeQuads .little 0 bs

end Codec

end Unmark.Charset
