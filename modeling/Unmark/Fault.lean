import Unmark.Text.Case

/-
Module: Unmark.Fault
Layer: foundations
Purpose: The faults that the program reports about its inputs, its options and its surroundings. They
  form a hierarchy of classes; a fault of a class may carry the details that the class knows of: where
  in a tree, in which stage, with which file, for which option, and what kind of error lies behind it.
  Each class has one constructor function, which also supplies the usual wording.
Main exports: FaultClass, FaultClass.ancestry, Cause, Fault, and one constructor function per class
-/

namespace Unmark

/-- The classes of faults. -/
inductive FaultClass where
  | general | validation | invalidOptions | file | fileMissing | parsing | malformedTree | rendering
  | outputWrite | dependency
deriving DecidableEq, Repr, Inhabited

namespace FaultClass

/-- The next more general class. -/
def parent? : FaultClass → Option FaultClass
  | general => none
  | validation | file | parsing | rendering | dependency => some general
  | invalidOptions => some validation
  | fileMissing => some file
  | malformedTree => some parsing
  | outputWrite => some rendering

/-- How many steps a class is away from the most general one. -/
def rank : FaultClass → Nat
  | general => 0
  | validation | file | parsing | rendering | dependency => 1
  | invalidOptions | fileMissing | malformedTree | outputWrite => 2

theorem rank_parent_lt {c p : FaultClass} (h : c.parent? = some p) : p.rank < c.rank := by
  cases c <;> simp_all [parent?] <;> subst h <;> decide

/-- A class and its more general ones, the class itself first. -/
def ancestry (c : FaultClass) : List FaultClass :=
  match _h : c.parent? with
  | none => [c]
  | some p => c :: ancestry p
termination_by c.rank
decreasing_by exact rank_parent_lt _h

end FaultClass

/-- The kinds of errors that can lie behind a fault. -/
inductive Cause where
  | jsonSyntax | missingFile | isDirectory | notDirectory | denied | system | value | missingModule
deriving DecidableEq, Repr, Inhabited

/-- A fault. -/
structure Fault where
  cls : FaultClass
  message : String
  path : Option String := none
  parsingStage : Option String := none
  renderingStage : Option String := none
  filePath : Option String := none
  parameterName : Option String := none
  cause : Option Cause := none
deriving DecidableEq, Repr, Inhabited

namespace Fault

def general (message : String) (cause : Option Cause) : Fault := { cls := .general, message, cause }

def validation (message : String) (parameterName : Option String) (cause : Option Cause) : Fault :=
  { cls := .validation, message, parameterName, cause }

/-- Options of the wrong type. -/
def invalidOptions (converter expected received : String) (message : Option String)
    (cause : Option Cause) : Fault :=
  { cls := .invalidOptions
    message := message.getD
      s!"{converter} expected options of type '{expected}' but received '{received}'."
    parameterName := some "options"
    cause }

def file (message : String) (filePath : Option String) (cause : Option Cause) : Fault :=
  { cls := .file, message, filePath, cause }

def fileMissing (filePath : String) (message : Option String) (cause : Option Cause) : Fault :=
  { cls := .fileMissing, message := message.getD s!"File not found: {filePath}",
    filePath := some filePath, cause }

def parsing (message : String) (stage : Option String) (cause : Option Cause) : Fault :=
  { cls := .parsing, message, parsingStage := stage, cause }

/-- A tree that cannot be loaded. A path that is not empty is named in the message. -/
def malformedTree (message : String) (path : Option String) (cause : Option Cause) : Fault :=
  let place := path.getD ""
  { cls := .malformedTree
    message := if place = "" then message else s!"{message} (at {place})"
    path
    parsingStage := some "tree_loading"
    cause }

def rendering (message : String) (stage : Option String) (cause : Option Cause) : Fault :=
  { cls := .rendering, message, renderingStage := stage, cause }

/-- An output file that cannot be written. -/
def outputWrite (filePath : String) (message : Option String) (cause : Option Cause) : Fault :=
  { cls := .outputWrite, message := message.getD s!"Failed to write output file: {filePath}",
    renderingStage := some "output", filePath := some filePath, cause }

/-- A requirement in a message: the name, and the versions asked for. -/
def requirementText (r : String × String) : String := s!"'{r.1}{r.2}'"

/-- A requirement as an argument of an install command. -/
def requirementArgument (r : String × String) : String :=
  if r.2 = "" then r.1 else s!"\"{r.1}{r.2}\""

/-- A version mismatch in a message. -/
def mismatchText (m : String × String × String) : String :=
  s!"'{m.1}' (requires {m.2.1}, but {m.2.2} is installed)"

/-- The wording of a dependency fault: what is missing, what has the wrong version, and how to install
    all of it. -/
def dependencyMessage (converter : String) (missing : List (String × String))
    (mismatched : List (String × String × String)) : String :=
  let name := Text.upperString converter
  let missingPart :=
    if missing.isEmpty then []
    else [s!"{name} requires the following packages: "
      ++ ", ".intercalate (missing.map requirementText)]
  let mismatchPart :=
    if mismatched.isEmpty then []
    else [s!"{name} has version mismatches: " ++ ", ".intercalate (mismatched.map mismatchText)]
  let all := missing ++ mismatched.map fun m => (m.1, m.2.1)
  let install :=
    if all.isEmpty then ""
    else "\nInstall with: pip install --upgrade " ++ " ".intercalate (all.map requirementArgument)
  "\n".intercalate (missingPart ++ mismatchPart) ++ install

/-- Packages that are missing or have the wrong version. -/
def dependency (converter : String) (missing : List (String × String))
    (mismatched : List (String × String × String)) (message : Option String)
    (cause : Option Cause) : Fault :=
  { cls := .dependency
    message := message.getD (dependencyMessage converter missing mismatched)
    cause }

end Fault

end Unmark
