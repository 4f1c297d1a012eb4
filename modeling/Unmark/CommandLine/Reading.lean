import Unmark.CommandLine.Interface

/-
Module: Unmark.CommandLine.Reading
Layer: CommandLine
Purpose: Reading a command line. Each word is a flag, the divider, or plain; after the divider all words are
  plain. A flag may be shortened as long as it stays the start of one flag only; a short flag may be
  followed by its value or by further short flags in the same word, a long one by its value after an
  equals sign. What nothing takes is surplus, which is refused only when all else is in order. What is
  given does not depend on the defaults; these fill the gaps afterwards.
Main exports: Stop, Word, Interface.classify, Given, Interface.read, Interface.complete, Interface.parse
-/

namespace Unmark.CommandLine

/-- Why the reading of a command line comes to an end before the program starts. -/
inductive Stop where
  | misuse (message : String)
  | announced (a : Announcement)
deriving DecidableEq, Repr, Inhabited

/-- The complaint about a setting. -/
def Setting.misuse (s : Setting) (complaint : String) : Stop :=
  .misuse s!"argument {s.title}: {complaint}"

/-- Whether a setting takes a value. -/
def Setting.takesValue (s : Setting) : Bool :=
  match s.action with
  | .value .. => true
  | _ => false

/-- A flag in a word: the setting if the flag is known, the flag in full, and the value that the word
    attaches to it. -/
structure Occurrence where
  setting : Option Setting
  flag : String
  attached : Option String := none
deriving Inhabited

/-- What a word of a command line is. -/
inductive Word where
  | plain (text : String)
  | divider
  | flag (text : String) (o : Occurrence)
deriving Inhabited

/-- The text of a word. -/
def Word.text : Word → String
  | plain s | flag s _ => s
  | divider => "--"

namespace Interface

/-- The flags of an interface with their settings. -/
def flags (i : Interface) : List (String × Setting) :=
  i.settings.flatMap fun s => s.flags.map fun f => (f, s)

/-- The setting of a flag. -/
def setting? (i : Interface) (flag : String) : Option Setting := i.flags.lookup flag

/-! ## Classification of words -/

/-- The parts of a text in front of and behind the first equals sign. -/
def splitValue (cs : List Char) : List Char × Option (List Char) :=
  match Text.breakOn? ['='] cs with
  | some (front, rest) => (front, some rest)
  | none => (cs, none)

/-- The readings of a word that is no flag in full: shortened long flags, or a short flag with its value
    attached. -/
def candidates (i : Interface) (word : List Char) : List Occurrence :=
  match word with
  | '-' :: '-' :: _ =>
    let (front, value) := splitValue word
    i.flags.filterMap fun (f, s) =>
      if front.isPrefixOf f.toList then some ⟨some s, f, value.map String.ofList⟩ else none
  | '-' :: c :: rest =>
    i.flags.filterMap fun (f, s) =>
      if f.toList = ['-', c] then some ⟨some s, f, some (String.ofList rest)⟩
      else if word.isPrefixOf f.toList then some ⟨some s, f, none⟩
      else none
  | _ => []

/-- Whether a text is a negative number, maybe with a line feed at its end. -/
def isNegativeNumber (word : List Char) : Bool :=
  match word with
  | '-' :: rest =>
    let rest := if rest.getLast? = some '\n' then rest.dropLast else rest
    match Text.breakOn? ['.'] rest with
    | some (front, places) => front.all Text.isDigit && !places.isEmpty && places.all Text.isDigit
    | none => !rest.isEmpty && rest.all Text.isDigit
  | _ => false

/-- What a word is that starts with a hyphen and is no flag in full. A text with a blank in it and a
    negative number are plain, the latter unless the interface has flags of that kind. -/
def classifyRest (i : Interface) (word : String) : Except Stop Word :=
  let cs := word.toList
  match i.candidates cs with
  | [o] => .ok (.flag word o)
  | [] =>
    if isNegativeNumber cs && !i.flags.any fun f => isNegativeNumber f.1.toList then .ok (.plain word)
    else if cs.contains ' ' then .ok (.plain word)
    else .ok (.flag word ⟨none, word, none⟩)
  | os =>
    let matching := ", ".intercalate (os.map Occurrence.flag)
    .error (.misuse s!"ambiguous option: {word} could match {matching}")

/-- What a word in front of the divider is. -/
def classify (i : Interface) (word : String) : Except Stop Word :=
  match word.toList with
  | '-' :: rest =>
    match i.setting? word with
    | some s => .ok (.flag word ⟨some s, word, none⟩)
    | none =>
      if rest.isEmpty then .ok (.plain word)
      else
        let (front, value) := splitValue word.toList
        match value, i.setting? (String.ofList front) with
        | some v, some s => .ok (.flag word ⟨some s, String.ofList front, some (String.ofList v)⟩)
        | _, _ => i.classifyRest word
  | _ => .ok (.plain word)

/-- What the words of a command line are. -/
def classifyAll (i : Interface) : List String → Except Stop (List Word)
  | [] => .ok []
  | "--" :: rest => .ok (.divider :: rest.map .plain)
  | w :: rest => do
    let word ← i.classify w
    return word :: (← classifyAll i rest)

/-! ## What is given -/

/-- The refusal of a value that is attached to a flag that takes none. -/
def refuseValue (s : Setting) (cs : List Char) : Stop :=
  s.misuse ("ignored explicit argument " ++ Text.quoted (String.ofList cs))

/-- A flag in a word with something attached: the settings that are switched on the way, and the last setting
    with its value. What is attached to a short flag that takes no value are further short flags. -/
def cluster (i : Interface) (s : Setting) (flag : String) : List Char →
    Except Stop (List Setting × Setting × Option String)
  | [] => if s.takesValue then .ok ([], s, some "") else .error (refuseValue s [])
  | c :: rest =>
    if s.takesValue then .ok ([], s, some (String.ofList (c :: rest)))
    else if isLong flag then .error (refuseValue s (c :: rest))
    else
      let next := String.ofList ['-', c]
      match i.setting? next with
      | none => .error (refuseValue s (c :: rest))
      | some t =>
        if rest.isEmpty then .ok ([s], t, none)
        else (cluster i t next rest).map fun (switched, last) => (s :: switched, last)

/-- The settings that a flag in a word concerns. -/
def expand (i : Interface) (s : Setting) (o : Occurrence) :
    Except Stop (List Setting × Setting × Option String) :=
  match o.attached with
  | none => .ok ([], s, none)
  | some v => i.cluster s o.flag v.toList

end Interface

/-- What a command line gives: values by key, later ones after earlier ones, and the words that nothing
    takes. -/
structure Given where
  values : Fields := []
  surplus : List String := []
deriving Inhabited

namespace Given

/-- A value in front of what else is given. -/
def value (key : String) (d : Data) (g : Given) : Given := { g with values := (key, d) :: g.values }

/-- A surplus word in front of what else is given. -/
def surplusWord (w : String) (g : Given) : Given := { g with surplus := w :: g.surplus }

/-- Values in front of what else is given. -/
def before (values : Fields) (g : Given) : Given := { g with values := values ++ g.values }

/-- The last value that is given under a key. -/
def value? (g : Given) (key : String) : Option Data := Fields.get? g.values.reverse key

end Given

/-- The value that a text gives a setting. The divider stands for no value at all, which no conversion and
    no choice is applied to. -/
def Setting.valueOf (s : Setting) (text : String) : Except Stop Data :=
  if text = "--" then .ok (.list [])
  else
    match s.action with
    | .value c choices =>
      match c.apply text with
      | .error e => .error (s.misuse e.refusal)
      | .ok (.str v) =>
        if choices.isEmpty || choices.contains v then .ok (.str v)
        else
          let all := ", ".intercalate (choices.map Text.quoted)
          .error (s.misuse s!"invalid choice: {Text.quoted v} (choose from {all})")
      | .ok d => .ok d
    | _ => .ok (.str text)

/-- A setting that is switched by the presence of a flag. -/
def Setting.switched (s : Setting) : Except Stop Fields :=
  match s.action with
  | .switch b => .ok [(s.key, .bool b)]
  | .announce a => .error (.announced a)
  | .value .. => .error (s.misuse "expected one argument")

/-- What settings give that are switched one after the other. -/
def switchedAll : List Setting → Except Stop Fields
  | [] => .ok []
  | s :: rest => do
    let given ← s.switched
    return given ++ (← switchedAll rest)

/-- Whether the operand is still to come, was the word just before, or is of no concern any more. -/
inductive OperandState where
  | expected | justTaken | settled
deriving DecidableEq, Repr, Inhabited

/-- The state after a flag. -/
def OperandState.afterFlag : OperandState → OperandState
  | expected => expected
  | _ => settled

namespace Interface

/-- What the operand is given when no word gives it. -/
def absentOperand (i : Interface) (g : Given) : Given :=
  match i.operand with
  | some (key, d) => g.value key (.str d)
  | none => g

/-- What the operand is given by a word. -/
def presentOperand (i : Interface) (w : String) (g : Given) : Given :=
  match i.operand with
  | some (key, _) => g.value key (.str w)
  | none => g.surplusWord w

/-- What the divider and the words after it give. The divider in front of the operand or just behind it
    disappears. -/
def afterDivider (i : Interface) (rest : List Word) : OperandState → Given
  | .expected =>
    match rest with
    | [] => i.absentOperand {}
    | w :: more => i.presentOperand w.text { surplus := more.map Word.text }
  | .justTaken => { surplus := rest.map Word.text }
  | .settled => { surplus := "--" :: rest.map Word.text }

/-- What a flag gives, and whether it takes the next word for its value. Only a plain word can be taken. -/
def take (i : Interface) (s : Setting) (o : Occurrence) (next : Option Word) :
    Except Stop (Fields × Bool) := do
  let (before, last, attached) ← i.expand s o
  if last.takesValue then
    match attached, next with
    | some v, _ => return ((← switchedAll before) ++ [(last.key, ← last.valueOf v)], false)
    | none, some (.plain v) => return ((← switchedAll before) ++ [(last.key, ← last.valueOf v)], true)
    | none, _ => throw (last.misuse "expected one argument")
  else return (← switchedAll (before ++ [last]), false)

/-- What classified words give. -/
def readWords (i : Interface) : OperandState → List Word → Except Stop Given
  | .expected, [] => .ok (i.absentOperand {})
  | _, [] => .ok {}
  | st, .divider :: rest => .ok (i.afterDivider rest st)
  | .expected, .plain w :: rest => (readWords i .justTaken rest).map (i.presentOperand w)
  | _, .plain w :: rest => (readWords i .settled rest).map (·.surplusWord w)
  | st, .flag w o :: rest =>
    match o.setting with
    | none => (readWords i st.afterFlag rest).map (·.surplusWord w)
    | some s =>
      match i.take s o rest.head?, rest with
      | .error stop, _ => .error stop
      | .ok (values, true), _ :: more => (readWords i st.afterFlag more).map (·.before values)
      | .ok (values, _), rest => (readWords i st.afterFlag rest).map (·.before values)

/-- What a command line gives. -/
def read (i : Interface) (argv : List String) : Except Stop Given := do
  let words ← i.classifyAll argv
  i.readWords (if i.operand.isSome then .expected else .settled) words

/-! ## Defaults -/

end Interface

/-- The default of a setting. A default that is a text is converted as a given value would be, but is not
    held against the choices. -/
def Setting.converted (s : Setting) : Except Stop Data :=
  match s.action, s.default with
  | .value c _, .str text => (c.apply text).mapError fun e => s.misuse e.refusal
  | _, d => .ok d

/-- The value of a setting: the given one, or else the default. -/
def Setting.valueIn (g : Given) (s : Setting) : Except Stop Data :=
  match g.value? s.key with
  | some d => .ok d
  | none => s.converted

/-- The values of settings, each under its key. -/
def completeAll (g : Given) : List Setting → Except Stop Fields
  | [] => .ok []
  | s :: rest =>
    match s.action with
    | .announce _ => completeAll g rest
    | _ => do
      let d ← s.valueIn g
      return (s.key, d) :: (← completeAll g rest)

namespace Interface

/-- The values of the operand and of all settings. Surplus words are refused. -/
def complete (i : Interface) (g : Given) : Except Stop Fields := do
  let operand := match i.operand with
    | some (key, d) => [(key, (g.value? key).getD (.str d))]
    | none => []
  let values ← completeAll g i.settings
  if g.surplus.isEmpty then return operand ++ values
  else throw (.misuse ("unrecognized arguments: " ++ " ".intercalate g.surplus))

/-- The values of the operand and of all settings for a command line in an environment. -/
def parse (i : Interface) (env : Environment) (argv : List String) : Except Stop Fields := do
  let i := i.withEnvironment env
  i.complete (← i.read argv)

end Interface

end Unmark.CommandLine
