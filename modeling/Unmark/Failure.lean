import Unmark.Fault
import Unmark.PlainText.Render
import Unmark.Tree.Dump
import Unmark.Yaml.Fault

/-
Module: Unmark.Failure
Layer: foundations
Purpose: What a caller of the whole program gets when an operation fails: a fault that the program
  reports as its own, or a plain error of one of a few kinds that it lets through.
Main exports: ErrorKind, Failure, LoadError.failure, JsonTreeError.failure, RenderError.failure,
  OptionError.failure, Yaml.Fault.failure
-/

namespace Unmark

/-- The kinds of errors that are let through. -/
inductive ErrorKind where
  | value | type | missingKey | index | attribute | overflow | recursion | encoding | markup | version
  | missingFile | isDirectory | notDirectory | denied | system
deriving DecidableEq, Repr, Inhabited

/-- Why an operation failed. -/
inductive Failure where
  | fault (f : Fault)
  | plain (kind : ErrorKind) (message : String)
deriving DecidableEq, Repr, Inhabited

/-- The message of a failure. -/
def Failure.message : Failure → String
  | fault f => f.message
  | plain _ m => m

def LoadError.failure (e : LoadError) : Failure :=
  .fault (.malformedTree e.defect.message (some (pathText e.path)) none)

/-- A text that is no JSON is a malformed tree; an integer that is too long for its digits to be read is
    let through. -/
def JsonTreeError.failure : JsonTreeError → Failure
  | .text (.longInteger n) => .plain .value (Json.Fault.longInteger n).message
  | .text f => .fault (.malformedTree s!"Invalid JSON tree: {f.message}" none (some .jsonSyntax))
  | .tree e => e.failure

def PlainText.RenderError.failure (e : PlainText.RenderError) : Failure :=
  .fault (.rendering e.message (some e.tag.name) none)

def OptionError.failure : OptionError → Failure
  | .unknownName owner name => .plain .type (OptionError.unknownName owner name).message
  | .emptySeparator => .plain .value OptionError.emptySeparator.message

def Json.Unwritable.failure : Json.Unwritable → Failure
  | .longInteger => .plain .value Json.Unwritable.longInteger.message
  | .circular => .plain .value Json.Unwritable.circular.message
  | u => .plain .type u.message

/-- A scalar of front matter that has no value of its type. -/
def Yaml.Fault.failure (f : Yaml.Fault) : Failure :=
  .plain (match f with
    | .unknownWord _ => .missingKey
    | .emptyNumber => .index
    | .noTimestamp => .attribute
    | .wideCodePoint | .wideFloat => .overflow
    | .noText => .type
    | .endless => .recursion
    | _ => .value) f.message

end Unmark
