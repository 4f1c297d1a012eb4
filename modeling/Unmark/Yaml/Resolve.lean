import Unmark.Yaml.Token

/-
Module: Unmark.Yaml.Resolve
Layer: Yaml
Purpose: The types of untagged scalars. A plain scalar that has the form of a truth value, a number, a
  point in time or one of a few words is of that type, and any other is a string. The forms are those
  of version 1.1 of YAML: octal integers start with a zero, a float has a point and a signed exponent,
  and numbers may be written to the base of sixty.
Main exports: Timestamp.parse?, resolve
-/

namespace Unmark.Yaml

/-- The tag of a type that YAML itself defines. -/
def coreTag (name : String) : String := "tag:yaml.org,2002:" ++ name

/-- The longest start of a text with characters of a class, and what follows it. -/
def span (p : Char → Bool) (cs : List Char) : List Char × List Char :=
  (cs.takeWhile p, cs.dropWhile p)

/-- A text without a sign at its start. -/
def unsigned (cs : List Char) : List Char :=
  match cs with
  | '+' :: rest | '-' :: rest => rest
  | _ => cs

def isDigitOrBar (c : Char) : Bool := isDigit c || c = '_'

/-- Digits and underscores that start with a digit. -/
def isDigits (cs : List Char) : Bool := (cs.head?.map isDigit).getD false && cs.all isDigitOrBar

/-- Whether a text is a part of a number to the base of sixty, after the first part. -/
def isSixtieth (cs : List Char) : Bool :=
  match cs with
  | [d] => isDigit d
  | [d, e] => '0' ≤ d && d ≤ '5' && isDigit e
  | _ => false

/-- Whether a text is a number of several parts to the base of sixty; `first` decides about the first
    part. -/
def isSexagesimal (first : List Char → Bool) (cs : List Char) : Bool :=
  match Text.splitAt ':' cs with
  | head :: part :: parts => first head && (part :: parts).all isSixtieth
  | _ => false

/-- Digits and underscores that start with a digit other than zero. -/
def isPositive (cs : List Char) : Bool := isDigits cs && cs.head? != some '0'

/-- Whether a text has the form of an integer. -/
def isInteger (cs : List Char) : Bool :=
  match unsigned cs with
  | '0' :: 'b' :: rest => !rest.isEmpty && rest.all fun c => c = '0' || c = '1' || c = '_'
  | '0' :: 'x' :: rest => !rest.isEmpty && rest.all fun c => (hexValue? c).isSome || c = '_'
  | '0' :: rest => rest.all fun c => ('0' ≤ c && c ≤ '7') || c = '_'
  | rest => isPositive rest || isSexagesimal isPositive rest

/-- Whether a text is empty or the exponent of a float, which has a sign. -/
def isExponent (cs : List Char) : Bool :=
  match cs with
  | [] => true
  | e :: sign :: rest =>
    (e = 'e' || e = 'E') && (sign = '+' || sign = '-') && !rest.isEmpty && rest.all isDigit
  | _ => false

/-- Whether a text has the form of a float. -/
def isFloat (cs : List Char) : Bool :=
  let rest := unsigned cs
  let (whole, tail) := span isDigitOrBar rest
  match tail with
  | '.' :: tail =>
    let (fraction, exponent) := span isDigitOrBar tail
    if whole.isEmpty then
      ((fraction.head?.map isDigit).getD false && isExponent exponent && rest.length = cs.length)
        || [".inf", ".Inf", ".INF"].contains (String.ofList rest)
        || [".nan", ".NaN", ".NAN"].contains (String.ofList cs)
    else isDigits whole && isExponent exponent
  | ':' :: _ =>
    let (before, point) := span (· ≠ '.') rest
    isSexagesimal isDigits before &&
      match point with
      | _ :: fraction => fraction.all isDigitOrBar
      | [] => false
  | _ => false

/-!
## Points in time
-/

/-- The parts of a point in time, as they are written. -/
structure Timestamp where
  year : List Char
  month : List Char
  day : List Char
  /-- Hours, minutes, seconds and the digits after the point. -/
  time : Option (List Char × List Char × List Char × List Char) := none
  /-- `Z`, or a sign and hours and minutes. -/
  zone : Option (Option (Char × List Char × List Char)) := none
deriving Inhabited

namespace Timestamp

/-- Up to two digits at the start of a text, at least `least`, and what follows. -/
def digits? (least : Nat) (cs : List Char) : Option (List Char × List Char) :=
  let run := (cs.take 2).takeWhile isDigit
  if least ≤ run.length then some (run, cs.drop run.length) else none

/-- A separator, and digits after it. -/
def part? (sep : Char) (least : Nat) (cs : List Char) : Option (List Char × List Char) :=
  match cs with
  | c :: rest => if c = sep then digits? least rest else none
  | [] => none

/-- The zone at the end of a point in time; none may be given. -/
def zone? (cs : List Char) : Option (Option (Option (Char × List Char × List Char))) :=
  match cs, cs.dropWhile fun c => c = ' ' || c = '\t' with
  | [], _ => some none
  | _, ['Z'] => some (some none)
  | _, sign :: rest =>
    if sign = '+' ∨ sign = '-' then
      match digits? 1 rest with
      | some (hours, []) => some (some (some (sign, hours, [])))
      | some (hours, rest) =>
        match part? ':' 2 rest with
        | some (minutes, []) => some (some (some (sign, hours, minutes)))
        | _ => none
      | none => none
    else none
  | _, [] => none

/-- The parts of a text that has the form of a date, or of a date and a time of day. -/
def parse? (cs : List Char) : Option Timestamp := do
  let year := cs.take 4
  guard (year.length = 4 && year.all isDigit)
  let (month, rest) ← part? '-' 1 (cs.drop 4)
  let (day, rest) ← part? '-' 1 rest
  match rest with
  | [] => return { year, month, day }
  | c :: tail =>
    let clock ←
      if c = 'T' ∨ c = 't' then some tail
      else if c = ' ' ∨ c = '\t' then some (tail.dropWhile fun c => c = ' ' || c = '\t')
      else none
    let (hour, rest) ← digits? 1 clock
    let (minute, rest) ← part? ':' 2 rest
    let (second, rest) ← part? ':' 2 rest
    let (fraction, rest) :=
      match rest with
      | '.' :: rest => span isDigit rest
      | _ => ([], rest)
    let zone ← zone? rest
    return { year, month, day, time := some (hour, minute, second, fraction), zone }

end Timestamp

/-- Whether a plain scalar is a point in time. A date alone has two digits for its month and its day. -/
def isTimestamp (cs : List Char) : Bool :=
  match Timestamp.parse? cs with
  | none => false
  | some t => t.time.isSome || (t.month.length = 2 && t.day.length = 2)

/-- The truth value that a word stands for. -/
def truthOf? (word : String) : Option Bool :=
  if ["yes", "true", "on"].contains word then some true
  else if ["no", "false", "off"].contains word then some false
  else none

/-- Whether a word is written in small letters, in capitals, or with a capital first. -/
def wordForms (word : String) : List String :=
  let upper := String.ofList (word.toList.map Char.toUpper)
  let capital := match word.toList with
    | c :: cs => String.ofList (c.toUpper :: cs)
    | [] => ""
  [word, capital, upper]

/-- The words that stand for truth values. -/
def truthWords : List String := ["yes", "no", "true", "false", "on", "off"].flatMap wordForms

/-- The tag of a plain scalar without a tag. -/
def resolve (text : String) : String :=
  let cs := text.toList
  if truthWords.contains text then coreTag "bool"
  else if isFloat cs then coreTag "float"
  else if isInteger cs then coreTag "int"
  else if text = "<<" then coreTag "merge"
  else if text = "" || text = "~" || (wordForms "null").contains text then coreTag "null"
  else if isTimestamp cs then coreTag "timestamp"
  else if text = "=" then coreTag "value"
  else if text = "!" || text = "&" || text = "*" then coreTag "yaml"
  else coreTag "str"

end Unmark.Yaml
