import Unmark.Yaml.Scalar

/-
Module: Unmark.Yaml.Token
Layer: Yaml
Purpose: The tokens of a YAML text. Indentation is made explicit: a block collection has a token for its
  start and one for its end. That a scalar or a collection is a key shows only when a colon follows it on
  the same line. So wherever a key may start a numbered place is left among the tokens, and a place
  becomes a key once its colon is met; places that meet none come to nothing.

  A text that is no YAML has tokens up to the place where this shows, and a last token that says why.
Main exports: Token, Token.scan
-/

namespace Unmark.Yaml

/-- A token. -/
inductive Token where
  | versionDirective (major : Nat)
  | tagDirective (handle lead : String)
  | otherDirective
  | documentStart
  | documentEnd
  | streamEnd
  | blockSequenceStart
  | blockMappingStart
  | blockEnd
  | flowSequenceStart
  | flowSequenceEnd
  | flowMappingStart
  | flowMappingEnd
  | blockEntry
  | flowEntry
  | key
  | value
  | alias (name : String)
  | anchor (name : String)
  | tag (handle : Option String) (suffix : String)
  | scalar (text : String) (plain : Bool)
  | fault (f : Fault)
deriving DecidableEq, Repr, Inhabited

/-!
## Names, tags and directives
-/

def isDigit (c : Char) : Bool := '0' ≤ c && c ≤ '9'

def isNameChar (c : Char) : Bool :=
  isDigit c || ('A' ≤ c && c ≤ 'Z') || ('a' ≤ c && c ≤ 'z') || c = '-' || c = '_'

def isUriChar (c : Char) : Bool := isNameChar c || ";/?:@&=+$,.!~*'()[]%".toList.contains c

/-- The name of an anchor or alias, after its mark. -/
def anchorName (c : Cursor) : Except Fault (String × Cursor) :=
  let (name, c) := c.next.span isNameChar
  if name.isEmpty then .error .invalid
  else if c.endOr fun d => isGap d || "?:,]\x7d%@\x60".toList.contains d then
    .ok (String.ofList name, c)
  else .error .invalid

/-- The bytes of percent escapes at the start of a text, and what follows them. -/
def percentBytes : List Char → Except Fault (List UInt8 × List Char)
  | '%' :: a :: b :: rest =>
    match hexNumber? [a, b] with
    | none => .error .invalid
    | some n => do
      let (more, rest) ← percentBytes rest
      return (n.toUInt8 :: more, rest)
  | '%' :: _ => .error .invalid
  | rest => .ok ([], rest)

/-- A URI with its percent escapes replaced. The fuel is its length. -/
def uriText : Nat → List Char → Except Fault (List Char)
  | 0, cs => .ok cs
  | fuel + 1, cs =>
    match cs with
    | [] => .ok []
    | '%' :: _ => do
      let (bytes, rest) ← percentBytes cs
      match String.fromUTF8? ⟨bytes.toArray⟩ with
      | none => .error .invalid
      | some text => return text.toList ++ (← uriText fuel rest)
    | c :: rest => do return c :: (← uriText fuel rest)

/-- A URI, which is not empty. -/
def uri (c : Cursor) : Except Fault (String × Cursor) :=
  let (source, after) := c.span isUriChar
  if source.isEmpty then .error .invalid
  else do return (String.ofList (← uriText source.length source), after)

/-- A tag handle: an exclamation mark, or two with a name between them. -/
def tagHandle (c : Cursor) : Except Fault (String × Cursor) :=
  if !c.at? (· = '!') then .error .invalid
  else if c.next.at? (· = ' ') then .ok ("!", c.next)
  else
    let (name, after) := c.next.span isNameChar
    if after.at? (· = '!') then .ok ("!" ++ String.ofList name ++ "!", after.next)
    else .error .invalid

/-- A tag. -/
def tagToken (c : Cursor) : Except Fault (Token × Cursor) := do
  let (handle, suffix, after) ←
    (match c.next.head? with
      | some '<' => do
        let (suffix, after) ← uri (c.skip 2)
        if after.at? (· = '>') then return (none, suffix, after.next) else throw .invalid
      | some ch =>
        if isGap ch then return (none, "!", c.next)
        else do
          let word := c.next.ahead.takeWhile fun d => !(d = ' ' || isBreak d)
          if word.contains '!' then do
            let (handle, after) ← tagHandle c
            let (suffix, after) ← uri after
            return (some handle, suffix, after)
          else do
            let (suffix, after) ← uri c.next
            return (some "!", suffix, after)
      | none => return (none, "!", c.next) : Except Fault (Option String × String × Cursor))
  if after.endOr fun d => d = ' ' || isBreak d then return (.tag handle suffix, after)
  else throw .invalid

/-- A number in a directive. -/
def directiveNumber (c : Cursor) : Except Fault (Nat × Cursor) :=
  let (digits, after) := c.span isDigit
  if digits.isEmpty then .error .invalid
  else .ok (digits.foldl (fun n d => n * 10 + (d.toNat - 48)) 0, after)

/-- A directive, from its percent sign. -/
def directive (c : Cursor) : Except Fault (Token × Cursor) := do
  let (name, c) := c.next.span isNameChar
  if name.isEmpty || !c.endOr (fun d => d = ' ' || isBreak d) then throw .invalid
  let (token, c) ←
    (if name = "YAML".toList then do
      let (major, c) ← directiveNumber (c.skipWhile (· = ' '))
      if !c.at? (· = '.') then throw .invalid
      let (_, c) ← directiveNumber c.next
      if c.endOr fun d => d = ' ' || isBreak d then return (.versionDirective major, c)
      else throw .invalid
    else if name = "TAG".toList then do
      let (handle, c) ← tagHandle (c.skipWhile (· = ' '))
      if !c.at? (· = ' ') then throw .invalid
      let (lead, c) ← uri (c.skipWhile (· = ' '))
      if c.endOr fun d => d = ' ' || isBreak d then return (.tagDirective handle lead, c)
      else throw .invalid
    else return (.otherDirective, c.skipWhile (!isBreak ·)) : Except Fault (Token × Cursor))
  let c := (c.skipWhile (· = ' ')).skipComment
  if c.endOr isBreak then return (token, ((c.lineBreak?).map Prod.snd).getD c) else throw .invalid

/-!
## The scan
-/

/-- A token, or a place that may become a key. -/
inductive Entry where
  | token (t : Token)
  | place (number : Nat)
deriving Inhabited

/-- A place that may become a key. A required one stands where a block collection starts or goes on, and
    nothing else than a key may stand there. -/
structure Place where
  number : Nat
  required : Bool
  index : Nat
  line : Nat
  column : Nat
deriving Inhabited

/-- The state of a scan. `entries` are in reverse order; `open?` maps depths of brackets to the place that
    is still open there; `keys` are the places that became keys, with whether a mapping starts there. -/
structure Scanner where
  cursor : Cursor
  entries : List Entry := []
  places : Nat := 0
  open? : List (Nat × Place) := []
  keys : List (Nat × Bool) := []
  indent : Int := -1
  indents : List Int := []
  depth : Nat := 0
  keyAllowed : Bool := true
deriving Inhabited

namespace Scanner

def push (s : Scanner) (t : Token) : Scanner := { s with entries := .token t :: s.entries }

/-- A scan with one more token and the place after it. -/
def pushAt (s : Scanner) (t : Token) (c : Cursor) : Scanner := { s.push t with cursor := c }

/-- The place where the next token starts, after spaces, comments and line ends. After a line end
    outside brackets a key may start. -/
def settle : Nat → Scanner → Scanner
  | 0, s => s
  | fuel + 1, s =>
    let c := (s.cursor.skipWhile (· = ' ')).skipComment
    match c.lineBreak? with
    | some (_, c) => settle fuel { s with cursor := c, keyAllowed := s.keyAllowed || s.depth == 0 }
    | none => { s with cursor := c }

/-- A scan without the open places that no key can come of: a key ends on its line and is not long. -/
def dropStale (s : Scanner) : Except Fault Scanner :=
  let stale (p : Place) : Bool := p.line ≠ s.cursor.line || s.cursor.index - p.index > 1024
  if s.open?.any fun (_, p) => stale p && p.required then .error .invalid
  else .ok { s with open? := s.open?.filter fun (_, p) => !stale p }

/-- A scan without the open place at the current depth. -/
def closePlace (s : Scanner) : Except Fault Scanner :=
  match s.open?.lookup s.depth with
  | some p =>
    if p.required then .error .invalid
    else .ok { s with open? := s.open?.filter (·.1 ≠ s.depth) }
  | none => .ok s

/-- A scan in which a key may start here, if one may. -/
def openPlace (s : Scanner) : Except Fault Scanner :=
  if s.keyAllowed then do
    let c := s.cursor
    let required := s.depth == 0 && s.indent == c.column
    let s ← s.closePlace
    let p : Place := ⟨s.places, required, c.index, c.line, c.column⟩
    return { s with
      places := s.places + 1
      open? := (s.depth, p) :: s.open?
      entries := .place s.places :: s.entries }
  else .ok s

/-- A scan in which the block collections that are indented further than a column have ended. -/
def unwind (column : Int) (s : Scanner) : Scanner :=
  if s.depth = 0 then
    let ended := (s.indent :: s.indents).takeWhile (column < ·)
    let left := (s.indent :: s.indents).drop ended.length
    { s with
      entries := ended.map (fun _ => Entry.token .blockEnd) ++ s.entries
      indent := left.headD (-1)
      indents := left.drop 1 }
  else s

/-- A scan with a block collection that starts at a column, unless one is open there. -/
def indentTo (column : Nat) (start : Token) (s : Scanner) : Scanner :=
  if s.indent < column then
    { s.push start with indent := column, indents := s.indent :: s.indents }
  else s

/-- A mark of a document's start or end, or a directive. -/
def documentMark (t : Token) (c : Cursor) (s : Scanner) : Except Fault Scanner := do
  let s ← (s.unwind (-1)).closePlace
  return { s.pushAt t c with keyAllowed := false }

/-- The end of the text. -/
def finish (s : Scanner) : Except Fault Scanner := do
  let s ← (s.unwind (-1)).closePlace
  return { s.push .streamEnd with keyAllowed := false, open? := [] }

def flowStart (t : Token) (s : Scanner) : Except Fault Scanner := do
  let s ← s.openPlace
  return { s.pushAt t s.cursor.next with depth := s.depth + 1, keyAllowed := true }

def flowEnd (t : Token) (s : Scanner) : Except Fault Scanner := do
  let s ← s.closePlace
  match s.depth with
  | 0 => throw .invalid
  | depth + 1 => return { s.pushAt t s.cursor.next with depth, keyAllowed := false }

def flowEntry (s : Scanner) : Except Fault Scanner := do
  let s ← s.closePlace
  return { s.pushAt .flowEntry s.cursor.next with keyAllowed := true }

/-- The mark of an item or of a key in front of it. Outside brackets it may start a collection. -/
def blockMark (t start : Token) (allowed : Bool) (s : Scanner) : Except Fault Scanner := do
  if s.depth == 0 && !s.keyAllowed then throw .invalid
  let s := if s.depth = 0 then s.indentTo s.cursor.column start else s
  let s ← s.closePlace
  return { s.pushAt t s.cursor.next with keyAllowed := allowed }

/-- The mark of a value. If a place is open it becomes a key. -/
def valueMark (s : Scanner) : Except Fault Scanner :=
  match s.open?.lookup s.depth with
  | some p =>
    let starts := s.depth == 0 && s.indent < p.column
    let s : Scanner := { s with
      open? := s.open?.filter (·.1 ≠ s.depth)
      keys := (p.number, starts) :: s.keys
      indent := if starts then p.column else s.indent
      indents := if starts then s.indent :: s.indents else s.indents
      keyAllowed := false }
    .ok (s.pushAt .value s.cursor.next)
  | none => s.blockMark .value .blockMappingStart (s.depth == 0)

/-- A token that may be a key by itself. -/
def keyToken (read : Cursor → Except Fault (Token × Cursor)) (s : Scanner) : Except Fault Scanner := do
  let s ← s.openPlace
  let (t, c) ← read s.cursor
  return { s.pushAt t c with keyAllowed := false }

def blockScalarToken (folded : Bool) (s : Scanner) : Except Fault Scanner := do
  let s ← s.closePlace
  let (text, c) ← blockScalar folded s.indent s.cursor
  return { s.pushAt (.scalar (String.ofList text) false) c with keyAllowed := true }

def plainToken (s : Scanner) : Except Fault Scanner := do
  let s ← s.openPlace
  let (text, c, broke) := plain (s.depth != 0) (s.indent + 1) s.cursor
  return { s.pushAt (.scalar (String.ofList text) true) c with keyAllowed := broke }

/-- Whether a plain scalar may start here. -/
def startsPlain (s : Scanner) : Bool :=
  match s.cursor.ahead with
  | [] => false
  | c :: rest =>
    !(isGap c || "-?:,[]\x7b\x7d#&*!|>'\x22%@\x60".toList.contains c) ||
      (!(rest.head?.map isGap).getD true && (c = '-' || (s.depth == 0 && (c = '?' || c = ':'))))

/-- The next token, from the place where it starts. -/
def token (s : Scanner) : Except Fault Scanner :=
  let c := s.cursor
  let apart := c.next.endOr isGap
  match c.head? with
  | none => s.finish
  | some ch =>
    if ch = '%' && c.column = 0 then do
      let (t, after) ← directive c
      s.documentMark t after
    else if c.column = 0 && c.marksAhead '-' then s.documentMark .documentStart (c.skip 3)
    else if c.column = 0 && c.marksAhead '.' then s.documentMark .documentEnd (c.skip 3)
    else if ch = '[' then s.flowStart .flowSequenceStart
    else if ch = '\x7b' then s.flowStart .flowMappingStart
    else if ch = ']' then s.flowEnd .flowSequenceEnd
    else if ch = '\x7d' then s.flowEnd .flowMappingEnd
    else if ch = ',' then s.flowEntry
    else if ch = '-' && apart then s.blockMark .blockEntry .blockSequenceStart true
    else if ch = '?' && (s.depth != 0 || apart) then
      s.blockMark .key .blockMappingStart (s.depth == 0)
    else if ch = ':' && (s.depth != 0 || apart) then s.valueMark
    else if ch = '*' then
      s.keyToken fun c => do
        let (name, c) ← anchorName c
        return (.alias name, c)
    else if ch = '&' then
      s.keyToken fun c => do
        let (name, c) ← anchorName c
        return (.anchor name, c)
    else if ch = '!' then s.keyToken tagToken
    else if ch = '|' && s.depth == 0 then s.blockScalarToken false
    else if ch = '>' && s.depth == 0 then s.blockScalarToken true
    else if ch = '\x27' || ch = '\x22' then
      s.keyToken fun c => do
        let (text, c) ← quotedScalar (ch = '\x22') c
        return (.scalar (String.ofList text) false, c)
    else if s.startsPlain then s.plainToken
    else throw .invalid

/-- The scan of all tokens. Every step reads a character, so the length of the text is fuel enough. -/
def run : Nat → Scanner → Scanner
  | 0, s => s.push (.fault .invalid)
  | fuel + 1, s =>
    let s := s.settle (s.cursor.ahead.length + 1)
    match s.dropStale with
    | .error f => s.push (.fault f)
    | .ok s =>
      let s := s.unwind s.cursor.column
      match s.token with
      | .error f => s.push (.fault f)
      | .ok next => if s.cursor.ahead.isEmpty then next else run fuel next

/-- The tokens of a scan: places that became keys are written out, and the others left out. -/
def tokens (s : Scanner) : List Token :=
  s.entries.reverse.flatMap fun
    | .token t => [t]
    | .place n =>
      match s.keys.lookup n with
      | some true => [.blockMappingStart, .key]
      | some false => [.key]
      | none => []

end Scanner

/-- The tokens of a text. -/
def Token.scan (cs : List Char) : List Token :=
  if cs.all isAllowed then
    let start := match cs with
      | '\ufeff' :: _ => (Cursor.mk cs 0 0 0).next
      | _ => Cursor.mk cs 0 0 0
    ((Scanner.mk start [] 0 [] [] (-1) [] 0 true).run (cs.length + 2)).tokens
  else [.fault .invalid]

end Unmark.Yaml
