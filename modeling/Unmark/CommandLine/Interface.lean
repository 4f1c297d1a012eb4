import Unmark.CommandLine.Flag
import Unmark.CommandLine.Separator
import Unmark.Data
import Unmark.Text.Integer
import Unmark.Text.Quoted

/-
Module: Unmark.CommandLine.Interface
Layer: CommandLine
Purpose: What a program takes on its command line: settings with flags, and at most one operand, which is
  always optional. A setting takes a value, or it is switched by its mere presence, or it makes the
  program say something and end. What is not given has a default, and an environment variable replaces
  the default of its setting.
Main exports: Conversion, Conversion.apply, Announcement, Action, Setting, Interface, Setting.fromEnvironment,
  Interface.withEnvironment
-/

namespace Unmark.CommandLine

/-- How the text of a value becomes the value. -/
inductive Conversion where
  | text | capitals | separator | integer
deriving DecidableEq, Repr, Inhabited

/-- A text that is no integer where one is wanted. -/
structure NoInteger where
  text : String
deriving DecidableEq, Repr, Inhabited

/-- What is wrong with a text that is no integer. -/
def NoInteger.reason (e : NoInteger) : String :=
  "invalid literal for int() with base 10: " ++ Text.quoted e.text

/-- What is wrong with a value on the command line that is no integer. -/
def NoInteger.refusal (e : NoInteger) : String := "invalid int value: " ++ Text.quoted e.text

/-- The value that a text stands for. -/
def Conversion.apply (c : Conversion) (s : String) : Except NoInteger Data :=
  match c with
  | text => .ok (.str s)
  | capitals => .ok (.str (Text.upperString s))
  | separator => .ok (.str (unescape s))
  | integer =>
    match Text.integer? 10 s.toList with
    | some n => .ok (.int n)
    | none => .error ⟨s⟩

/-- What a program can be asked to say. The help is made from all that it takes. -/
inductive Announcement where
  | help
  | text (s : String)
deriving DecidableEq, Repr, Inhabited

/-- What a flag does. -/
inductive Action where
  /-- Takes a value, which has to be one of the choices if there are any. -/
  | value (c : Conversion) (choices : List String)
  | switch (b : Bool)
  /-- Says something, and the program ends. -/
  | announce (a : Announcement)
deriving DecidableEq, Repr, Inhabited

/-- A setting. Settings that announce something have a key of their own, but no value. -/
structure Setting where
  flags : List String
  key : String
  action : Action
  default : Data := .null
deriving Inhabited

/-- What a program takes on its command line. -/
structure Interface where
  program : String
  /-- The key and the default of the operand. -/
  operand : Option (String × String) := none
  settings : List Setting
deriving Inhabited

/-- The variables of an environment with their values. -/
abbrev Environment := List (String × String)

/-- Words that switch a setting on, in letters of either case. -/
def affirmations : List String := ["true", "1", "yes", "on"]

/-- Whether the value of an environment variable switches a setting on. -/
def affirms (s : String) : Bool := affirmations.contains (Text.lowerString s)

/-- The name of a setting in messages. -/
def Setting.title (s : Setting) : String := "/".intercalate s.flags

/-- A setting with the default that its environment variable gives, and a warning if the variable has a
    value that stands for nothing. Then the default stays as it is. -/
def Setting.fromEnvironment (env : Environment) (s : Setting) : Setting × Option String :=
  let name := environmentKey s.key
  match env.lookup name, s.action with
  | none, _ | _, .announce _ => (s, none)
  | some v, .switch _ => ({ s with default := .bool (affirms v) }, none)
  | some v, .value c _ =>
    match c.apply v with
    | .ok d => ({ s with default := d }, none)
    | .error e => (s, some s!"Invalid environment variable {name}={v}: {e.reason}")

/-- An interface with the defaults that an environment gives. -/
def Interface.withEnvironment (env : Environment) (i : Interface) : Interface :=
  { i with settings := i.settings.map fun s => (s.fromEnvironment env).1 }

/-- The warnings about an environment. -/
def Interface.warnings (env : Environment) (i : Interface) : List String :=
  i.settings.filterMap fun s => (s.fromEnvironment env).2

end Unmark.CommandLine
