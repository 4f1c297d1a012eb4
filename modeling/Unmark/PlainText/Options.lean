import Unmark.Data
import Unmark.OptionError

/-
Module: Unmark.PlainText.Options
Layer: PlainText
Purpose: The options of rendering. The separator between sibling blocks is never empty, which the type
  records. Options can be made from named values, and written as named values.
Main exports: PlainText.Options, Options.update, Options.fields
-/

namespace Unmark.PlainText

/-- The options of rendering. -/
structure Options where
  blockSeparator : String := "\n"
  strikethroughPhrase : String := "strikethrough: "
  warnOnUnknownKinds : Bool := true
  separator_ne : blockSeparator ≠ "" := by decide
deriving DecidableEq, Repr

namespace Options

instance : Inhabited Options := ⟨{}⟩

/-- The name of these options in messages. -/
def owner : String := "PlainTextOptions"

/-- The names of the options. -/
def names : List String := ["block_separator", "strikethrough_phrase", "warn_on_unknown_kinds"]

/-- The options as named values. -/
def fields (o : Options) : Fields :=
  [("block_separator", .str o.blockSeparator), ("strikethrough_phrase", .str o.strikethroughPhrase),
   ("warn_on_unknown_kinds", .bool o.warnOnUnknownKinds)]

/-- A string among named values, or what it was before. -/
def stringOr (before : String) (given : Fields) (name : String) : String :=
  match given.get? name with
  | some (.str s) => s
  | _ => before

/-- A truth value among named values, or what it was before. -/
def boolOr (before : Bool) (given : Fields) (name : String) : Bool :=
  match given.get? name with
  | some (.bool b) => b
  | _ => before

/-- Options with some values replaced. The first name that is unknown is refused, and so is an empty
    separator, or a value that stands for none. -/
def update (o : Options) (given : Fields) : Except OptionError Options :=
  match given.find? fun f => !names.contains f.1 with
  | some (name, _) => .error (.unknownName owner name)
  | none =>
    let separator :=
      match given.get? "block_separator" with
      | some (.str s) => s
      | some d => if d.truthy then o.blockSeparator else ""
      | none => o.blockSeparator
    if h : separator = "" then .error .emptySeparator
    else
      .ok {
        blockSeparator := separator
        strikethroughPhrase := stringOr o.strikethroughPhrase given "strikethrough_phrase"
        warnOnUnknownKinds := boolOr o.warnOnUnknownKinds given "warn_on_unknown_kinds"
        separator_ne := h }

/-- Options from named values; what is not named has its default. -/
def ofFields (given : Fields) : Except OptionError Options := update {} given

end Options

end Unmark.PlainText
