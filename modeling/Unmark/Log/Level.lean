import Unmark.Log.Record
import Unmark.Text.Case
import Unmark.Text.Quoted

/-
Module: Unmark.Log.Level
Layer: Log
Purpose: Thresholds of the log. A threshold is asked for by its number or by a name in letters of either case;
  whoever asks for tracing gets the threshold of debugging whatever else is asked for.
Main exports: Wanted, UnknownLevel, Misconfigured, Wanted.resolve
-/

namespace Unmark.Log

/-- A threshold as it is asked for. -/
inductive Wanted where
  | number (n : Int)
  | name (s : String)
  /-- A threshold was announced, and then none was named. -/
  | blank
deriving DecidableEq, Repr, Inhabited

/-- A threshold that is not known. -/
structure UnknownLevel where
  wanted : Wanted
deriving DecidableEq, Repr, Inhabited

/-- How a message shows a threshold that is asked for. -/
def Wanted.shown : Wanted → String
  | number n => toString n
  | name s => Text.quoted s
  | blank => "[]"

/-- The wording of a threshold that is not known. -/
def UnknownLevel.message (u : UnknownLevel) : String := "Unknown log level: " ++ u.wanted.shown

/-- Why the log cannot be configured: the threshold is not known, or no file can have the name of the log
    file. -/
inductive Misconfigured where
  | level (u : UnknownLevel)
  | fileName (message : String)
deriving DecidableEq, Repr, Inhabited

/-- The wording of a reason why the log cannot be configured. -/
def Misconfigured.message : Misconfigured → String
  | level u => u.message
  | fileName message => message

/-- The names of thresholds. -/
def levelNames : List (String × Int) :=
  [("CRITICAL", 50), ("FATAL", 50), ("ERROR", 40), ("WARN", 30), ("WARNING", 30), ("INFO", 20),
   ("DEBUG", 10), ("NOTSET", 0)]

/-- The number of a threshold that is asked for. -/
def Wanted.resolve (traced : Bool) (w : Wanted) : Except UnknownLevel Int :=
  if traced then .ok Severity.debug.number
  else
    match w with
    | number n => .ok n
    | name s =>
      match levelNames.lookup (Text.upperString s) with
      | some n => .ok n
      | none => .error ⟨w⟩
    | blank => .error ⟨w⟩

end Unmark.Log
