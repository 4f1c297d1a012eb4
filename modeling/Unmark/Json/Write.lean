import Unmark.Data
import Unmark.Decimal.Shortest
import Unmark.Json.Read

/-
Module: Unmark.Json.Write
Layer: Json
Purpose: Writing a value as JSON text. Characters outside ASCII are written as they are. Without an
  indentation everything stands on one line; with one, every element and member starts a line of its
  own. Keys that are numbers, truth values or null are written as strings. Values that JSON has no
  form for are refused, the first one in writing order.
Main exports: Json.Unwritable, Json.write
-/

namespace Unmark.Json

/-- What keeps a value from being written as JSON. -/
inductive Unwritable where
  | value (typeName : String)
  | key (typeName : String)
  | longInteger
  /-- A collection that holds itself. -/
  | circular
deriving DecidableEq, Repr

/-- The wording of a refusal. -/
def Unwritable.message : Unwritable → String
  | value t => s!"Object of type {t} is not JSON serializable"
  | key t => s!"keys must be str, int, float, bool or None, not {t}"
  | longInteger =>
    s!"Exceeds the limit ({digitLimit} digits) for integer string conversion; "
      ++ "use sys.set_int_max_str_digits() to increase the limit"
  | circular => "Circular reference detected"

/-- The lower-case hexadecimal digit of a number below 16. -/
def hexChar (n : Nat) : Char := if n < 10 then Char.ofNat (48 + n) else Char.ofNat (87 + n)

/-- The written form of one character of a string. -/
def escapeChar (c : Char) : List Char :=
  if c = '\x22' then ['\\', '\x22']
  else if c = '\\' then ['\\', '\\']
  else if c = '\n' then ['\\', 'n']
  else if c = '\r' then ['\\', 'r']
  else if c = '\t' then ['\\', 't']
  else if c = '\x0c' then ['\\', 'f']
  else if c = '\x08' then ['\\', 'b']
  else if c.toNat < 0x20 then
    ['\\', 'u', '0', '0', hexChar (c.toNat / 16), hexChar (c.toNat % 16)]
  else [c]

/-- A string in quotes. -/
def quote (s : String) : List Char := '\x22' :: s.toList.flatMap escapeChar ++ ['\x22']

/-- Doubles in JSON: as elsewhere, but infinities and NaN are spelled out. -/
def floatStyle : DecimalStyle := { plainStyle with infinity := "Infinity", nan := "NaN" }

/-- The text of an integer. -/
def integer (n : Int) : Except Unwritable (List Char) :=
  let text := (toString n).toList
  if (toString n.natAbs).length > digitLimit then .error .longInteger else .ok text

/-- The text of a key, before it is quoted. -/
def keyText : Data → Except Unwritable String
  | .str s => .ok s
  | .null => .ok "null"
  | .bool b => .ok (if b then "true" else "false")
  | .int n => (integer n).map String.ofList
  | .float x => .ok (floatStyle.write x)
  | d => .error (.key d.typeName)

/-- The break in front of an element at the given depth. -/
def lineBreak (indent : Option Int) (depth : Nat) : List Char :=
  match indent with
  | none => []
  | some n => '\n' :: List.replicate (n.toNat * depth) ' '

/-- What stands between two elements at the given depth. -/
def separator (indent : Option Int) (depth : Nat) : List Char :=
  match indent with
  | none => [',', ' ']
  | some _ => ',' :: lineBreak indent depth

mutual

/-- The text of a value whose elements stand at depth `depth + 1`. -/
def writeAt (indent : Option Int) (depth : Nat) : Data → Except Unwritable (List Char)
  | .null => .ok "null".toList
  | .bool b => .ok (if b then "true".toList else "false".toList)
  | .int n => integer n
  | .float x => .ok (floatStyle.write x).toList
  | .str s => .ok (quote s)
  | .list ds | .tuple ds =>
    if ds.isEmpty then .ok ['[', ']']
    else do
      let body ← writeItems indent depth ds
      return '[' :: lineBreak indent (depth + 1) ++ body ++ lineBreak indent depth ++ [']']
  | .map es =>
    if es.isEmpty then .ok ['\x7b', '\x7d']
    else do
      let body ← writeEntries indent depth es
      return '\x7b' :: lineBreak indent (depth + 1) ++ body ++ lineBreak indent depth ++ ['\x7d']
  | .set ds => .error (.value (Data.set ds).typeName)
  | .bytes bs => .error (.value (Data.bytes bs).typeName)
  | .date y m d => .error (.value (Data.date y m d).typeName)
  | .stamp s => .error (.value (Data.stamp s).typeName)
  | .enclosing _ => .error .circular

/-- The texts of the elements of an array, with what stands between them. -/
def writeItems (indent : Option Int) (depth : Nat) : List Data → Except Unwritable (List Char)
  | [] => .ok []
  | [d] => writeAt indent (depth + 1) d
  | d :: ds => do
    let first ← writeAt indent (depth + 1) d
    let rest ← writeItems indent depth ds
    return first ++ separator indent (depth + 1) ++ rest

/-- The texts of the members of an object, with what stands between them. -/
def writeEntries (indent : Option Int) (depth : Nat) :
    List (Data × Data) → Except Unwritable (List Char)
  | [] => .ok []
  | [(k, v)] => do
    let key ← keyText k
    let val ← writeAt indent (depth + 1) v
    return quote key ++ [':', ' '] ++ val
  | (k, v) :: es => do
    let key ← keyText k
    let val ← writeAt indent (depth + 1) v
    let rest ← writeEntries indent depth es
    return quote key ++ [':', ' '] ++ val ++ separator indent (depth + 1) ++ rest

end

/-- The JSON text of a value. -/
def write (indent : Option Int) (d : Data) : Except Unwritable String :=
  (writeAt indent 0 d).map String.ofList

end Unmark.Json
