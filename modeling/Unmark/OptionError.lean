/-
Module: Unmark.OptionError
Layer: foundations
Purpose: Why a set of named option values is refused: a name that the options do not have, or a
  separator that is empty. An unknown name is found before any value is looked at.
Main exports: OptionError, OptionError.message
-/

namespace Unmark

/-- Why option values are refused. `owner` is the name of the options in messages. -/
inductive OptionError where
  | unknownName (owner name : String)
  | emptySeparator
deriving DecidableEq, Repr

/-- The wording of a refusal. -/
def OptionError.message : OptionError → String
  | unknownName owner name => s!"{owner}.__init__() got an unexpected keyword argument '{name}'"
  | emptySeparator => "block_separator must be a non-empty string"

end Unmark
