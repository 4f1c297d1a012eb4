import Unmark.Failure
import Unmark.Package.Specifier

/-
Module: Unmark.Package.Installation
Layer: Package
Purpose: Which packages are there, and whether they are those that a converter depends on. A dependency names
  a distribution, the module that it provides and the versions that will do. A module that is not
  there is missing; one that is there may belong to a distribution of a wrong or unknown version. Names
  of distributions are compared without regard to case and to the kind and number of separators. A name
  that cannot be looked for, and a recorded version that is none, end the look at the dependencies.
Main exports: Installation, Installation.version?, Obstacle, Installation.check, Dependency, Shortfall,
  Installation.shortfall, Installation.guarded, Installation.usual
-/

namespace Unmark.Package

/-- What is installed: the versions of distributions by name, and the modules that can be loaded. What a
    distribution records as its version need not be one. -/
structure Installation where
  distributions : List (String × String)
  modules : List String
deriving Repr

/-- A name of a distribution in the spelling that is compared: lower case, one hyphen for each run of
    separators. `after` says that a separator was just met. -/
def plainName (after : Bool) : List Char → List Char
  | [] => []
  | c :: cs =>
    if c = '-' ∨ c = '_' ∨ c = '.' then
      if after then plainName true cs else '-' :: plainName true cs
    else c :: plainName false cs

/-- Whether two names denote the same distribution. -/
def sameName (a b : String) : Bool :=
  Text.lower (plainName false a.toList) == Text.lower (plainName false b.toList)

/-- Why looking at a dependency comes to no answer. -/
inductive Obstacle where
  | namelessModule
  /-- The name of a module starts with a full stop: it is one as seen from another module. -/
  | relativeModule (name : String)
  | namelessDistribution
  /-- What a distribution records as its version is none. -/
  | noVersion (text : String)
deriving DecidableEq, Repr, Inhabited

/-- The failure that an obstacle is let through as. -/
def Obstacle.failure : Obstacle → Failure
  | namelessModule => .plain .value "Empty module name"
  | relativeModule name =>
    .plain .type
      s!"the 'package' argument is required to perform a relative import for {Text.quoted name}"
  | namelessDistribution => .plain .value "A distribution name is required."
  | noVersion text => .plain .version s!"Invalid version: {Text.quoted text}"

namespace Installation

/-- The version of an installed distribution. -/
def version? (i : Installation) (name : String) : Option String :=
  (i.distributions.find? fun d => sameName d.1 name).map Prod.snd

/-- What a distribution records as its version, if it is installed. It has to have a name. -/
def recorded (i : Installation) (name : String) : Except Obstacle (Option String) :=
  if name = "" then .error .namelessDistribution else .ok (i.version? name)

/-- Whether a module can be loaded. -/
def provides (i : Installation) (module : String) : Bool := i.modules.contains module

/-- Whether a module can be loaded. It has to have a name, and one of its own. -/
def loads (i : Installation) (module : String) : Except Obstacle Bool :=
  if module = "" then .error .namelessModule
  else if module.toList.head? = some '.' then .error (.relativeModule module)
  else .ok (i.provides module)

/-- Whether an installed distribution is what a requirement asks for, and its version if it has one. A
    requirement that cannot be read is met by nothing, and so is any by a distribution without a version. -/
def check (i : Installation) (name requirement : String) : Except Obstacle (Bool × Option String) :=
  match i.recorded name with
  | .error o => .error o
  | .ok none | .ok (some "") => .ok (false, none)
  | .ok (some text) =>
    match Requirement.ofString? requirement with
    | none => .ok (false, some text)
    | some r =>
      match Version.ofString? text with
      | none => .error (.noVersion text)
      | some v => .ok (r.admits v, some text)

end Installation

/-- What a converter depends on. -/
structure Dependency where
  distribution : String
  module : String
  requirement : String
deriving DecidableEq, Repr, Inhabited

/-- What an installation lacks: the missing packages with what is asked of them, those of a wrong version with
    what is asked and what is there, and the module that was the first not to be there. -/
structure Shortfall where
  missing : List Dependency := []
  mismatched : List (Dependency × String) := []
  firstModule : Option String := none
deriving DecidableEq, Repr, Inhabited

namespace Installation

/-- What is lacking once one more dependency is looked at. The version of a module that is not there is not
    looked at, and neither is that of one of which any version will do. -/
def examine (i : Installation) (s : Shortfall) (d : Dependency) : Except Obstacle Shortfall :=
  match i.loads d.module with
  | .error o => .error o
  | .ok false =>
    .ok { s with
      missing := s.missing ++ [d]
      firstModule := s.firstModule.or (some d.module) }
  | .ok true =>
    if d.requirement = "" then .ok s
    else
      match i.check d.distribution d.requirement with
      | .error o => .error o
      | .ok (true, _) => .ok s
      | .ok (false, installed) =>
        .ok { s with mismatched := s.mismatched ++ [(d, installed.getD "unknown")] }

/-- What an installation lacks of some dependencies, which are looked at in their order. -/
def shortfall (i : Installation) (ds : List Dependency) : Except Obstacle Shortfall := ds.foldlM i.examine {}

/-- The fault about what a converter lacks. The cause is the first module that is not there. -/
def fault (converter : String) (s : Shortfall) : Fault :=
  .dependency converter (s.missing.map fun d => (d.distribution, d.requirement))
    (s.mismatched.map fun (d, v) => (d.distribution, d.requirement, v)) none
    (s.firstModule.map fun _ => .missingModule)

/-- A value that a converter makes, if nothing that it depends on is lacking. An obstacle is let through. -/
def guarded {α : Type} (i : Installation) (converter : String) (ds : List Dependency) (value : Unit → α) :
    Except Failure α :=
  match i.shortfall ds with
  | .error o => .error o.failure
  | .ok s =>
    if s.missing.isEmpty && s.mismatched.isEmpty then .ok (value ())
    else .error (.fault (fault converter s))

/-- The distributions that the program comes with. -/
def usual : Installation :=
  { distributions :=
      [("mdplain", "0.1.0"), ("mistune", "3.4.0"), ("PyYAML", "6.0.3"), ("chardet", "7.7.0"),
       ("rich", "15.0.0"), ("packaging", "26.3")]
    modules := ["mdplain", "mistune", "yaml", "chardet", "rich", "packaging"] }

end Installation

end Unmark.Package
