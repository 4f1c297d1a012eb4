import Unmark.Data
import Unmark.Decimal.Binary
import Unmark.Text.Half
import Unmark.Text.Space

/-
Module: Unmark.Json.Read
Layer: Json
Purpose: Reading JSON text into a value. The grammar is the standard one with three more number words
  (`NaN`, `Infinity`, `-Infinity`). An object keeps its keys in order; a key that is repeated keeps its
  first place and takes its last value. The first fault in reading order is reported. A half of a surrogate pair
  that stands alone is read as the character of a plane that stands for it.
Main exports: Json.Fault, Json.Fault.message, Json.readWith, Json.read
-/

namespace Unmark.Json

/-- What can be wrong with a text that should be JSON. -/
inductive Fault where
  | byteOrderMark
  | value
  | propertyName
  | colon
  | comma
  | extraData
  | unterminatedString
  | controlCharacter
  | badEscape
  | badUnicodeEscape
  | longInteger (digits : Nat)
deriving DecidableEq, Repr

/-- Integers with more digits than this are not converted to or from decimal text. -/
def digitLimit : Nat := 4300

/-- The wording of a fault. -/
def Fault.message : Fault → String
  | byteOrderMark => "Unexpected UTF-8 BOM (decode using utf-8-sig)"
  | value => "Expecting value"
  | propertyName => "Expecting property name enclosed in double quotes"
  | colon => "Expecting ':' delimiter"
  | comma => "Expecting ',' delimiter"
  | extraData => "Extra data"
  | unterminatedString => "Unterminated string starting at"
  | controlCharacter => "Invalid control character at"
  | badEscape => "Invalid \\escape"
  | badUnicodeEscape => "Invalid \\uXXXX escape"
  | longInteger digits =>
    s!"Exceeds the limit ({digitLimit} digits) for integer string conversion: value has {digits} digits; "
      ++ "use sys.set_int_max_str_digits() to increase the limit"

/-- White space between the parts of a JSON text. -/
def isBlank (c : Char) : Bool := c = ' ' || c = '\t' || c = '\n' || c = '\r'

/-- A text without the white space at its start. -/
def skipBlank (cs : List Char) : List Char := cs.dropWhile isBlank

/-- The value of a hexadecimal digit. -/
def hexDigit? (c : Char) : Option Nat :=
  if '0' ≤ c ∧ c ≤ '9' then some (c.toNat - 48)
  else if 'a' ≤ c ∧ c ≤ 'f' then some (c.toNat - 87)
  else if 'A' ≤ c ∧ c ≤ 'F' then some (c.toNat - 55)
  else none

/-- The number that four hexadecimal digits at the start of a text denote, and what follows them. -/
def hexQuad? : List Char → Option (Nat × List Char)
  | a :: b :: c :: d :: rest => do
    let a ← hexDigit? a
    let b ← hexDigit? b
    let c ← hexDigit? c
    let d ← hexDigit? d
    return (((a * 16 + b) * 16 + c) * 16 + d, rest)
  | _ => none

/-- Whether a text starts a second half of a surrogate pair: its code, and what follows the escape.
    `none` stands for a text that starts no such escape; an escape without four digits is a fault. -/
def secondHalf (cs : List Char) : Except Fault (Option (Nat × List Char)) :=
  match cs with
  | '\\' :: 'u' :: rest =>
    if rest.length < 5 then .ok none
    else
      match hexQuad? rest with
      | none => .error .badUnicodeEscape
      | some (n, rest) => .ok (if 0xDC00 ≤ n ∧ n < 0xE000 then some (n, rest) else none)
  | _ => .ok none

/-- The character that a `u` escape denotes, from the text after the letter. Two escapes that form a
    surrogate pair denote one character. -/
def unicodeEscape (plane : Nat) (cs : List Char) : Except Fault (Char × List Char) :=
  if cs.length < 5 then .error .badUnicodeEscape
  else
    match hexQuad? cs with
    | none => .error .badUnicodeEscape
    | some (n, rest) =>
      if 0xD800 ≤ n ∧ n < 0xDC00 then
        match secondHalf rest with
        | .error e => .error e
        | .ok none => .ok (Text.charOf plane n, rest)
        | .ok (some (m, rest)) =>
          .ok (Char.ofNat (0x10000 + (n - 0xD800) * 0x400 + (m - 0xDC00)), rest)
      else .ok (Text.charOf plane n, rest)

/-- The character that a one-letter escape denotes. -/
def simpleEscape? : Char → Option Char
  | '\x22' => some '\x22'
  | '\\' => some '\\'
  | '/' => some '/'
  | 'b' => some '\x08'
  | 'f' => some '\x0c'
  | 'n' => some '\n'
  | 'r' => some '\r'
  | 't' => some '\t'
  | _ => none

/-- The rest of a string after its opening quote, and the text after its closing quote. Every step takes a
    character, so more than the length of the text is enough fuel. -/
def readString (plane : Nat) : Nat → List Char → List Char → Except Fault (List Char × List Char)
  | 0, _, _ => .error .unterminatedString
  | _ + 1, _, [] => .error .unterminatedString
  | fuel + 1, acc, c :: rest =>
    if c = '\x22' then .ok (acc.reverse, rest)
    else if c = '\\' then
      match rest with
      | [] => .error .unterminatedString
      | 'u' :: rest =>
        match unicodeEscape plane rest with
        | .error e => .error e
        | .ok (d, rest) => readString plane fuel (d :: acc) rest
      | e :: rest =>
        match simpleEscape? e with
        | none => .error .badEscape
        | some d => readString plane fuel (d :: acc) rest
    else if c.toNat < 0x20 then .error .controlCharacter
    else readString plane fuel (c :: acc) rest

/-- A string from the text after its opening quote. -/
def string (plane : Nat) (cs : List Char) : Except Fault (String × List Char) :=
  match readString plane (cs.length + 1) [] cs with
  | .error e => .error e
  | .ok (s, rest) => .ok (String.ofList s, rest)

/-- Whether a character is one of the ten decimal digits. -/
def isDigit (c : Char) : Bool := '0' ≤ c && c ≤ '9'

/-- The number that decimal digits denote. -/
def natOfDigits (ds : List Char) : Nat := ds.foldl (fun n d => n * 10 + (d.toNat - 48)) 0

/-- Whether a minus sign stands at the start of a text, and what follows it. -/
def signPart : List Char → Bool × List Char
  | '-' :: rest => (true, rest)
  | cs => (false, cs)

/-- The digits of an integer part: a single zero, or digits that do not start with one. -/
def wholeDigits : List Char → List Char × List Char
  | '0' :: rest => (['0'], rest)
  | cs => (cs.takeWhile isDigit, cs.dropWhile isDigit)

/-- The digits of a fraction, when a point and a digit follow. -/
def fractionDigits : List Char → List Char × List Char
  | '.' :: rest =>
    if (rest.takeWhile isDigit).isEmpty then ([], '.' :: rest)
    else (rest.takeWhile isDigit, rest.dropWhile isDigit)
  | cs => ([], cs)

/-- The exponent, when a mark and a digit follow. -/
def exponentPart (cs : List Char) : Option Int × List Char :=
  match cs with
  | e :: rest =>
    if e = 'e' ∨ e = 'E' then
      let (negative, digits) :=
        match rest with
        | '-' :: ds => (true, ds)
        | '+' :: ds => (false, ds)
        | ds => (false, ds)
      if (digits.takeWhile isDigit).isEmpty then (none, cs)
      else
        let n : Int := natOfDigits (digits.takeWhile isDigit)
        (some (if negative then -n else n), digits.dropWhile isDigit)
    else (none, cs)
  | [] => (none, [])

/-- A number. One without fraction and exponent is an integer, of any size up to the limit on its
    digits; all others are doubles. -/
def number (cs : List Char) : Except Fault (Data × List Char) :=
  let (negative, body) := signPart cs
  let (whole, rest) := wholeDigits body
  if whole.isEmpty then .error .value
  else
    let (fraction, rest) := fractionDigits rest
    let (exponent, rest) := exponentPart rest
    match fraction, exponent with
    | [], none =>
      if whole.length > digitLimit then .error (.longInteger whole.length)
      else
        let n : Int := natOfDigits whole
        .ok (.int (if negative then -n else n), rest)
    | _, _ =>
      let x := Binary.ofDecimal (natOfDigits (whole ++ fraction)) (exponent.getD 0 - fraction.length)
      .ok (.float (if negative then -x else x), rest)

/-- The words that stand for values. -/
def words : List (String × Data) :=
  [("null", .null), ("true", .bool true), ("false", .bool false),
   ("NaN", .float (0.0 / 0.0)), ("Infinity", .float (1.0 / 0.0)),
   ("-Infinity", .float (-1.0 / 0.0))]

/-- The value of a word at the start of a text. -/
def word? (cs : List Char) : Option (Data × List Char) :=
  words.findSome? fun (w, d) => (Text.after? w.toList cs).map fun rest => (d, rest)

mutual

/-- A value at the start of a text. Every second step on the way into nested values takes a character, so twice
    the length of the text and a little more is enough fuel. -/
def value (plane : Nat) : Nat → List Char → Except Fault (Data × List Char)
  | 0, _ => .error .value
  | fuel + 1, cs =>
    match cs with
    | '\x22' :: rest =>
      match string plane rest with
      | .error e => .error e
      | .ok (s, rest) => .ok (.str s, rest)
    | '\x7b' :: rest =>
      match skipBlank rest with
      | '\x7d' :: rest => .ok (.map [], rest)
      | rest =>
        match members plane fuel [] rest with
        | .error e => .error e
        | .ok (es, rest) => .ok (.map es, rest)
    | '[' :: rest =>
      match skipBlank rest with
      | ']' :: rest => .ok (.list [], rest)
      | rest =>
        match elements plane fuel rest with
        | .error e => .error e
        | .ok (ds, rest) => .ok (.list ds, rest)
    | _ =>
      match word? cs with
      | some found => .ok found
      | none => number cs

/-- The members of an object up to its closing brace. -/
def members (plane : Nat) : Nat → List (Data × Data) → List Char → Except Fault (List (Data × Data) × List Char)
  | 0, _, _ => .error .propertyName
  | fuel + 1, acc, cs =>
    match cs with
    | '\x22' :: rest =>
      match string plane rest with
      | .error e => .error e
      | .ok (key, rest) =>
        match skipBlank rest with
        | ':' :: rest =>
          match value plane fuel (skipBlank rest) with
          | .error e => .error e
          | .ok (d, rest) =>
            let acc := Data.insert (.str key) d acc
            match skipBlank rest with
            | '\x7d' :: rest => .ok (acc, rest)
            | ',' :: rest => members plane fuel acc (skipBlank rest)
            | _ => .error .comma
        | _ => .error .colon
    | _ => .error .propertyName

/-- The elements of an array up to its closing bracket. -/
def elements (plane : Nat) : Nat → List Char → Except Fault (List Data × List Char)
  | 0, _ => .error .value
  | fuel + 1, cs =>
    match value plane fuel cs with
    | .error e => .error e
    | .ok (d, rest) =>
      match skipBlank rest with
      | ']' :: rest => .ok ([d], rest)
      | ',' :: rest =>
        match elements plane fuel (skipBlank rest) with
        | .error e => .error e
        | .ok (ds, rest) => .ok (d :: ds, rest)
      | _ => .error .comma

end

/-- Reads a text that is one JSON value and nothing else. -/
def readChars (plane : Nat) (cs : List Char) : Except Fault Data :=
  match cs with
  | '\uFEFF' :: _ => .error .byteOrderMark
  | _ =>
    match value plane (2 * cs.length + 2) (skipBlank cs) with
    | .error e => .error e
    | .ok (d, rest) => if (skipBlank rest).isEmpty then .ok d else .error .extraData

/-- Reads a text that is one JSON value and nothing else, with a plane for halves of surrogate pairs. -/
def readWith (plane : Nat) (text : String) : Except Fault Data := readChars plane text.toList

/-- Reads a text that is one JSON value and nothing else. -/
def read (text : String) : Except Fault Data := readWith Text.usualPlane text

end Unmark.Json
