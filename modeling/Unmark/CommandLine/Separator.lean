/-
Module: Unmark.CommandLine.Separator
Layer: CommandLine
Purpose: Separators as they are typed. A backslash and a letter stand for a line feed, a tab or a carriage
  return, two backslashes for one; every other backslash stands for itself.
Main exports: unescape, escape
-/

namespace Unmark.CommandLine

/-- The separator that a typed text stands for. -/
def unescapeChars : List Char → List Char
  | '\\' :: 'n' :: cs => '\n' :: unescapeChars cs
  | '\\' :: 't' :: cs => '\t' :: unescapeChars cs
  | '\\' :: 'r' :: cs => '\r' :: unescapeChars cs
  | '\\' :: '\\' :: cs => '\\' :: unescapeChars cs
  | c :: cs => c :: unescapeChars cs
  | [] => []

/-- The separator that a typed text stands for. -/
def unescape (s : String) : String := String.ofList (unescapeChars s.toList)

/-- How one character of a separator is typed. -/
def escapeChar (c : Char) : List Char :=
  if c = '\n' then ['\\', 'n']
  else if c = '\t' then ['\\', 't']
  else if c = '\r' then ['\\', 'r']
  else if c = '\\' then ['\\', '\\']
  else [c]

/-- A text that stands for a separator. -/
def escape (s : String) : String := String.ofList (s.toList.flatMap escapeChar)

end Unmark.CommandLine
