import Unmark.Text.Quoted

/-
Module: Unmark.Yaml.Fault
Layer: Yaml
Purpose: Why a YAML text has no value. Most reasons are one to a reader: the text does not follow the
  grammar, or a part of it stands for no value. Some scalars look like a number, a date or a word of a
  given type and are none; these are told apart.
Main exports: Fault, Fault.message
-/

namespace Unmark.Yaml

/-- Why a YAML text has no value. -/
inductive Fault where
  | invalid
  /-- An integer to a base that has no digits, or others than the base has. -/
  | integer (base : Nat) (text : String)
  | longInteger (digits : Nat)
  | float (text : String)
  /-- A number without a single character. -/
  | emptyNumber
  /-- A truth value that is none of the known words. -/
  | unknownWord (text : String)
  | noTimestamp
  | year (n : Nat)
  | month
  | day
  | hour
  | minute
  | second
  /-- An offset from UTC of a day or more, in seconds. -/
  | offset (seconds : Int)
  /-- An escape for a code point beyond the last one. -/
  | codePoint
  /-- An escape for a code point beyond 31 bits. -/
  | wideCodePoint
  /-- A point in time that is not given by a scalar. -/
  | noText
  /-- A number to the base of sixty with more parts than a double can tell. -/
  | wideFloat
  /-- A mapping that is its own default member, where a scalar is wanted. -/
  | endless
deriving DecidableEq, Repr, Inhabited

/-- The parts of a length of time in days and seconds. -/
def durationText (seconds : Int) : String :=
  let days := Int.fdiv seconds 86400
  let rest := Int.fmod seconds 86400
  let parts :=
    (if days = 0 then [] else [s!"days={days}"]) ++ (if rest = 0 then [] else [s!"seconds={rest}"])
  "datetime.timedelta(" ++ String.intercalate ", " parts ++ ")"

/-- The wording of a fault. -/
def Fault.message : Fault → String
  | invalid => "invalid YAML"
  | integer base text => s!"invalid literal for int() with base {base}: {Text.quoted text}"
  | longInteger digits =>
    s!"Exceeds the limit (4300 digits) for integer string conversion: value has {digits} digits; use sys.set_int_max_str_digits() to increase the limit"
  | float text => s!"could not convert string to float: {Text.quoted text}"
  | emptyNumber => "string index out of range"
  | unknownWord text => Text.quoted text
  | noTimestamp => "'NoneType' object has no attribute 'groupdict'"
  | year n => s!"year {n} is out of range"
  | month => "month must be in 1..12"
  | day => "day is out of range for month"
  | hour => "hour must be in 0..23"
  | minute => "minute must be in 0..59"
  | second => "second must be in 0..59"
  | offset seconds =>
    s!"offset must be a timedelta strictly between -timedelta(hours=24) and timedelta(hours=24), not {durationText seconds}."
  | codePoint => "chr() arg not in range(0x110000)"
  | wideCodePoint => "Python int too large to convert to C int"
  | noText => "expected string or bytes-like object, got 'list'"
  | wideFloat => "int too large to convert to float"
  | endless => "maximum recursion depth exceeded"

end Unmark.Yaml
