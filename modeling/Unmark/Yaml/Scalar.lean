import Unmark.Text.Half
import Unmark.Yaml.Cursor
import Unmark.Yaml.Fault

/-
Module: Unmark.Yaml.Scalar
Layer: Yaml
Purpose: The four written forms of scalars: plain, in single or double quotes, and as a block of lines that
  is kept or folded. A line end within a scalar becomes a space, unless empty lines follow it; then
  these stand. Each reader gives the text and the place after it. Loops are bounded by the number of
  characters ahead.
Main exports: plain, quotedScalar, blockScalar
-/

namespace Unmark.Yaml

/-- What a line end and the empty lines after it come to when lines are folded. -/
def foldedBreak (first : Char) (more : List Char) : List Char :=
  (if first ≠ '\n' then [first] else if more.isEmpty then [' '] else []) ++ more

/-!
## Plain scalars
-/

/-- Whether a character ends a plain scalar within brackets. -/
def isFlowMark (c : Char) : Bool := c = ',' || c = '[' || c = ']' || c = '\x7b' || c = '\x7d'

/-- The characters of a plain scalar up to a gap or another end. -/
def plainRun (flow : Bool) : List Char → List Char
  | [] => []
  | c :: cs =>
    let valueMark := c = ':' && ((cs.head?.map fun d => isGap d || (flow && isFlowMark d)).getD true)
    if isGap c || valueMark || (flow && (isFlowMark c || c = '?')) then []
    else c :: plainRun flow cs

/-- The empty lines and indentation from a line start on, and the place after them. Nothing if a mark of
    a document's start or end comes first. -/
def plainBreaks : Nat → Cursor → Option (List Char) × Cursor
  | 0, c => (some [], c)
  | fuel + 1, c =>
    if c.separatorAhead && c.column = 0 then (none, c)
    else
      let c := c.skipWhile (· = ' ')
      match c.lineBreak? with
      | none => (some [], c)
      | some (b, c) =>
        let (more, c) := plainBreaks fuel c
        (more.map (b :: ·), c)

/-- What lies between two runs of a plain scalar, the place after it, and whether a line ended. Nothing
    means that the scalar ends. -/
def plainGap (c : Cursor) : List Char × Cursor × Bool :=
  let (blanks, c) := c.span (· = ' ')
  match c.lineBreak? with
  | none => (blanks, c, false)
  | some (b, c) =>
    match plainBreaks (c.ahead.length + 1) c with
    | (none, c) => ([], c, true)
    | (some more, c) => (foldedBreak b more, c, true)

/-- A plain scalar from a run on. `gap` stands in front of the run, `broke` says whether a line ended
    there. Gives the text, the place after it, and whether a line has ended since its last run. -/
def plainFrom (flow : Bool) (indent : Int) (gap : List Char) (broke : Bool) :
    Nat → Cursor → List Char × Cursor × Bool
  | 0, c => ([], c, broke)
  | fuel + 1, c =>
    let run := if c.at? (· = '#') then [] else plainRun flow c.ahead
    if run.isEmpty then ([], c, broke)
    else
      let (next, c, broke) := plainGap (c.skip run.length)
      if next.isEmpty || c.at? (· = '#') || (!flow && (c.column : Int) < indent) then
        (gap ++ run, c, broke)
      else
        let (more, c, broke) := plainFrom flow indent next broke fuel c
        (gap ++ run ++ more, c, broke)

/-- A plain scalar. Outside brackets its further lines are indented at least by `indent`. -/
def plain (flow : Bool) (indent : Int) (c : Cursor) : List Char × Cursor × Bool :=
  plainFrom flow indent [] false (c.ahead.length + 1) c

/-!
## Quoted scalars
-/

/-- Characters that stand for another one after a backslash. -/
def escapeTable : List (Char × Char) :=
  [('0', '\x00'), ('a', '\x07'), ('b', '\x08'), ('t', '\t'), ('\t', '\t'), ('n', '\n'),
   ('v', '\x0b'), ('f', '\x0c'), ('r', '\r'), ('e', '\x1b'), (' ', ' '), ('\x22', '\x22'),
   ('\\', '\\'), ('/', '/'), ('N', '\x85'), ('_', '\xa0'), ('L', '\u2028'), ('P', '\u2029')]

/-- The number of hexadecimal digits after a backslash and a letter. -/
def escapeWidth? (c : Char) : Option Nat :=
  match c with
  | 'x' => some 2
  | 'u' => some 4
  | 'U' => some 8
  | _ => none

def hexValue? (c : Char) : Option Nat :=
  if '0' ≤ c ∧ c ≤ '9' then some (c.toNat - 48)
  else if 'a' ≤ c ∧ c ≤ 'f' then some (c.toNat - 87)
  else if 'A' ≤ c ∧ c ≤ 'F' then some (c.toNat - 55)
  else none

/-- The number that hexadecimal digits stand for. -/
def hexNumber? (cs : List Char) : Option Nat :=
  cs.foldl (fun n c => n.bind fun n => (hexValue? c).map (n * 16 + ·)) (some 0)

/-- The empty lines from a line start on, and the place after them and the blanks that follow. No mark of
    a document's start or end may come in between. -/
def quotedBreaks : Nat → Cursor → Except Fault (List Char × Cursor)
  | 0, _ => .error .invalid
  | fuel + 1, c =>
    if c.separatorAhead then .error .invalid
    else
      let c := c.skipWhile fun d => d = ' ' || d = '\t'
      match c.lineBreak? with
      | none => .ok ([], c)
      | some (b, c) => do
        let (more, c) ← quotedBreaks fuel c
        return (b :: more, c)

/-- The character or line end after a backslash. -/
def quotedEscape (fuel : Nat) (c : Cursor) : Except Fault (List Char × Cursor) :=
  match c.head? with
  | none => .error .invalid
  | some ch =>
    match escapeTable.lookup ch with
    | some d => .ok ([d], c.next)
    | none =>
      match escapeWidth? ch with
      | some width =>
        let digits := c.next.ahead.take width
        match if digits.length = width then hexNumber? digits else none with
        | none => .error .invalid
        | some n =>
          if n < 0x110000 then .ok ([Text.charOf Text.usualPlane n], c.next.skip width)
          else .error (if n < 0x80000000 then .codePoint else .wideCodePoint)
      | none =>
        match c.lineBreak? with
        | some (_, c) => quotedBreaks fuel c
        | none => .error .invalid

/-- A quoted scalar from within it to its end. -/
def quotedFrom (double : Bool) : Nat → Cursor → Except Fault (List Char × Cursor)
  | 0, _ => .error .invalid
  | fuel + 1, c => do
    let quote := if double then '\x22' else '\x27'
    match c.ahead with
    | [] => .error .invalid
    | ch :: rest =>
      if ch = quote then
        if !double && rest.head? == some quote then
          let (more, c) ← quotedFrom double fuel (c.skip 2)
          return (quote :: more, c)
        else return ([], c.next)
      else if double && ch = '\\' then
        let (text, c) ← quotedEscape (fuel + 1) c.next
        let (more, c) ← quotedFrom double fuel c
        return (text ++ more, c)
      else if isGap ch then
        let (blanks, c) := c.span fun d => d = ' ' || d = '\t'
        match c.lineBreak? with
        | none =>
          let (more, c) ← quotedFrom double fuel c
          return (blanks ++ more, c)
        | some (b, c) =>
          let (breaks, c) ← quotedBreaks (fuel + 1) c
          let (more, c) ← quotedFrom double fuel c
          return (foldedBreak b breaks ++ more, c)
      else
        let (more, c) ← quotedFrom double fuel c.next
        return (ch :: more, c)

/-- A scalar in quotes, from its opening quote. -/
def quotedScalar (double : Bool) (c : Cursor) : Except Fault (List Char × Cursor) :=
  quotedFrom double (c.ahead.length + 1) c.next

/-!
## Block scalars
-/

/-- What happens to the line ends at the end of a block: all are dropped, one is kept, or all are. -/
inductive Chomping where
  | strip
  | clip
  | keep
deriving DecidableEq, Repr, Inhabited

def chompingMark? (c : Char) : Option Chomping :=
  if c = '+' then some .keep else if c = '-' then some .strip else none

/-- A digit from 1 to 9 that says how far a block is indented. -/
def indentDigit? (c : Char) : Option Nat :=
  if '1' ≤ c ∧ c ≤ '9' then some (c.toNat - 48) else none

/-- The marks of a block scalar after its first character, in either order, each at most once. -/
def blockMarks (c : Cursor) : Chomping × Option Nat × Cursor :=
  match c.head?.bind chompingMark? with
  | some chomping =>
    match c.next.head?.bind indentDigit? with
    | some n => (chomping, some n, c.skip 2)
    | none => (chomping, none, c.next)
  | none =>
    match c.head?.bind indentDigit? with
    | some n =>
      match c.next.head?.bind chompingMark? with
      | some chomping => (chomping, some n, c.skip 2)
      | none => (.clip, some n, c.next)
    | none => (.clip, none, c)

/-- The line ends in front of a block, the greatest column reached by spaces among them, and the place
    after them. -/
def blockIndentation : Nat → Cursor → List Char × Nat × Cursor
  | 0, c => ([], 0, c)
  | fuel + 1, c =>
    let c := c.skipWhile (· = ' ')
    match c.lineBreak? with
    | none => ([], c.column, c)
    | some (b, after) =>
      let (more, reached, last) := blockIndentation fuel after
      (b :: more, max c.column reached, last)

/-- The place after the spaces here, up to a column. -/
def skipTo (column : Nat) (c : Cursor) : Cursor :=
  c.skip ((c.ahead.take (column - c.column)).takeWhile (· = ' ')).length

/-- The empty lines of a block from here on, and the place after them. -/
def blockBreaks (indent : Nat) : Nat → Cursor → List Char × Cursor
  | 0, c => ([], c)
  | fuel + 1, c =>
    let c := skipTo indent c
    match c.lineBreak? with
    | none => ([], c)
    | some (b, c) =>
      let (more, c) := blockBreaks indent fuel c
      (b :: more, c)

/-- The lines of a block. `breaks` are the empty lines in front of the next line. Gives the text, the
    line end of the last line, the empty lines after it and the place after them. -/
def blockLines (folded : Bool) (indent : Nat) :
    Nat → List Char → Cursor → List Char × List Char × List Char × Cursor
  | 0, breaks, c => ([], [], breaks, c)
  | fuel + 1, breaks, c =>
    if c.column = indent && !c.ahead.isEmpty then
      let startsBlank := c.at? fun d => d = ' ' || d = '\t'
      let (line, c) := c.span (!isBreak ·)
      let (ending, c) : List Char × Cursor :=
        match c.lineBreak? with
        | some (b, c) => ([b], c)
        | none => ([], c)
      let (next, c) := blockBreaks indent (c.ahead.length + 1) c
      if c.column = indent && !c.ahead.isEmpty then
        let folds := folded && ending = ['\n'] && !startsBlank &&
          !c.at? fun d => d = ' ' || d = '\t'
        let between := if folds then (if next.isEmpty then [' '] else []) else ending
        let (more, last, tail, c) := blockLines folded indent fuel next c
        (breaks ++ line ++ between ++ more, last, tail, c)
      else (breaks ++ line, ending, next, c)
    else ([], [], breaks, c)

/-- A block scalar, from its first mark. `parent` is the indentation of what holds the block. -/
def blockScalar (folded : Bool) (parent : Int) (c : Cursor) : Except Fault (List Char × Cursor) :=
  let (chomping, increment, c) := blockMarks c.next
  if !c.endOr fun d => d = ' ' || isBreak d then .error .invalid
  else
    let c := (c.skipWhile (· = ' ')).skipComment
    if !c.endOr isBreak then .error .invalid
    else
      let c := ((c.lineBreak?).map Prod.snd).getD c
      let least := (parent + 1).toNat.max 1
      let fuel := c.ahead.length + 1
      let (indent, breaks, c) : Nat × List Char × Cursor :=
        match increment with
        | some n =>
          let indent := least + n - 1
          let (breaks, c) := blockBreaks indent fuel c
          (indent, breaks, c)
        | none =>
          let (breaks, reached, c) := blockIndentation fuel c
          (max least reached, breaks, c)
      let (text, ending, tail, c) := blockLines folded indent fuel breaks c
      let close : List Char :=
        match chomping with
        | .strip => []
        | .clip => ending
        | .keep => ending ++ tail
      .ok (text ++ close, c)

end Unmark.Yaml
