import Unmark.Data
import Unmark.Decimal.Shortest
import Unmark.Text.Quoted

/-
Module: Unmark.Display
Layer: foundations
Purpose: The text of a value where a document uses it as a name or a message shows it. A string stands
  for itself; inside a container it is quoted.
Main exports: Data.inner, Data.display, Stamp.text
-/

namespace Unmark

/-- A date as year, month and day. -/
def dateText (year month day : Nat) : String :=
  DecimalStyle.padded 4 year ++ "-" ++ DecimalStyle.padded 2 month ++ "-" ++ DecimalStyle.padded 2 day

/-- An offset from UTC: sign, hours and minutes, and seconds when there are any. -/
def offsetText (seconds : Int) : String :=
  let n := seconds.natAbs
  let tail := if n % 60 = 0 then "" else ":" ++ DecimalStyle.padded 2 (n % 60)
  (if seconds < 0 then "-" else "+") ++ DecimalStyle.padded 2 (n / 3600) ++ ":"
    ++ DecimalStyle.padded 2 (n / 60 % 60) ++ tail

/-- A point in time, with its fraction of a second when it has one and its offset when it has one. -/
def Stamp.text (s : Stamp) : String :=
  let fraction := if s.microsecond = 0 then "" else "." ++ DecimalStyle.padded 6 s.microsecond
  let zone :=
    match s.offset with
    | none => ""
    | some o => offsetText o
  dateText s.year s.month s.day ++ "T" ++ DecimalStyle.padded 2 s.hour ++ ":"
    ++ DecimalStyle.padded 2 s.minute ++ ":" ++ DecimalStyle.padded 2 s.second ++ fraction ++ zone

namespace Data

mutual

/-- The text of a value inside a container. -/
def inner : Data → String
  | null => "None"
  | bool true => "True"
  | bool false => "False"
  | int n => toString n
  | float x => floatText x
  | str s => Text.quoted s
  | list ds => "[" ++ innerAll ds ++ "]"
  | tuple [d] => "(" ++ inner d ++ ",)"
  | tuple ds => "(" ++ innerAll ds ++ ")"
  | set ds => if ds.isEmpty then "set()" else "\x7b" ++ innerAll ds ++ "\x7d"
  | map es => "\x7b" ++ innerEntries es ++ "\x7d"
  | bytes bs => "b" ++ Text.quoted (String.ofList (bs.map fun b => Char.ofNat b.toNat))
  | date y m d => dateText y m d
  | stamp s => s.text
  | enclosing .map => "\x7b...\x7d"
  | enclosing .list => "[...]"

/-- The texts of the elements of a container. -/
def innerAll : List Data → String
  | [] => ""
  | [d] => inner d
  | d :: ds => inner d ++ ", " ++ innerAll ds

/-- The texts of the entries of a mapping. -/
def innerEntries : List (Data × Data) → String
  | [] => ""
  | [(k, v)] => inner k ++ ": " ++ inner v
  | (k, v) :: es => inner k ++ ": " ++ inner v ++ ", " ++ innerEntries es

end

/-- The text of a value. -/
def display : Data → String
  | str s => s
  | d => inner d

end Data

end Unmark
