import Unmark.Text.Case
import Unmark.Text.Space

/-
Module: Unmark.Markdown.Label
Layer: Markdown
Purpose: Labels of references. Two labels mean the same reference when they have the same key: white
  space is collapsed, and the text is put in lower case and then in upper case, which equates more
  letters than either alone. The name by which a reference is known in a tree is its label with
  collapsed white space in lower case.
Main exports: collapse, labelName, labelKey
-/

namespace Unmark.Markdown

/-- A text with its words separated by single spaces. -/
def collapse (cs : List Char) : List Char := Text.join [' '] (Text.words cs)

/-- The name of a label in the tree. -/
def labelName (label : String) : String := String.ofList (Text.lower (collapse label.toList))

/-- The key under which a label is looked up. -/
def labelKey (label : String) : String :=
  String.ofList (Text.upper (Text.lower (collapse label.toList)))

end Unmark.Markdown
