import Unmark.Text.Case
import Unmark.Text.Space

/-
Module: Unmark.CommandLine.Flag
Layer: CommandLine
Purpose: Names on the command line. A flag starts with one hyphen or two; a setting has a key, which its
  flags tell when nobody else does, and which tells the environment variable of the setting.
Main exports: kebab, environmentKey, keyOfFlags?, usualKey
-/

namespace Unmark.CommandLine

/-- A text with each occurrence of a character replaced by another one. -/
def replaceChar (old new : Char) (cs : List Char) : List Char := cs.map fun c => if c = old then new else c

/-- A name with hyphens where it has underscores. -/
def kebab (name : String) : String := String.ofList (replaceChar '_' '-' name.toList)

/-- What all environment variables of the program start with. -/
def environmentStart : String := "MDPLAIN_"

/-- The environment variable of a setting with some key: capitals, and no hyphens. -/
def environmentKey (key : String) : String :=
  environmentStart ++ String.ofList (replaceChar '-' '_' (Text.upper key.toList))

/-- The key that a flag tells. A flag of two hyphens is written with underscores; if `positive` is set, a
    leading denial is left out as well. What is no flag tells nothing. -/
def keyOfFlag? (positive : Bool) (flag : List Char) : Option (List Char) :=
  match Text.after? "--no-".toList flag with
  | some rest => some (replaceChar '-' '_' (if positive then rest else 'n' :: 'o' :: '-' :: rest))
  | none =>
    match flag with
    | '-' :: '-' :: rest => some (replaceChar '-' '_' rest)
    | '-' :: rest => some rest
    | _ => none

/-- The key that the first of some flags tells. -/
def keyOfFlags? (positive : Bool) (flags : List String) : Option String :=
  (flags.findSome? fun f => keyOfFlag? positive f.toList).map String.ofList

/-- Whether a flag starts with two hyphens. -/
def isLong (flag : String) : Bool :=
  match flag.toList with
  | '-' :: '-' :: _ => true
  | _ => false

/-- The key that a setting has when none is given: the first long flag, or else the first flag, without the
    hyphens in front and with underscores. -/
def usualKey (flags : List String) : String :=
  let flag := ((flags.find? isLong).or flags.head?).getD ""
  String.ofList (replaceChar '-' '_' (flag.toList.dropWhile (· = '-')))

end Unmark.CommandLine
