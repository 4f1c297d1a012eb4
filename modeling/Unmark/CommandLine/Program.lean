import Unmark.CommandLine.Reading
import Unmark.Failure
import Unmark.Markdown.Options
import Unmark.Package.Installation

/-
Module: Unmark.CommandLine.Program
Layer: CommandLine
Purpose: What this program takes on its command line. The options of reading Markdown and of rendering are
  settings under the keys that they have as named values: one that is on unless it is turned off has a
  flag that denies it.
Main exports: program, markdownOptions, renderOptions
-/

namespace Unmark.CommandLine

/-- A flag that turns an option on, or one that turns off an option that is on by default. -/
def optionSwitch (key flag : String) (usual : Bool) : Setting :=
  { flags := ["--" ++ flag], key, action := .switch (!usual), default := .bool usual }

/-- The flags of the options of reading Markdown, by key. -/
def markdownFlags : List (String × String) :=
  [("parse_strikethrough", "no-strikethrough"), ("parse_tables", "no-tables"),
   ("parse_footnotes", "no-footnotes"), ("parse_task_lists", "no-task-lists"),
   ("parse_frontmatter", "no-frontmatter"), ("emit_frontmatter_node", "emit-frontmatter"),
   ("emit_definition_nodes", "emit-definitions")]

/-- The settings for the options of reading Markdown. -/
def markdownSettings : List Setting :=
  (Markdown.Options.flags {}).map fun (key, usual) =>
    optionSwitch key ((markdownFlags.lookup key).getD (kebab key)) usual

/-- The settings for the options of rendering. -/
def renderSettings : List Setting :=
  let usual : PlainText.Options := default
  [{ flags := ["--block-separator"], key := "block_separator", action := .value .separator []
     default := .str usual.blockSeparator },
   { flags := ["--strikethrough-phrase"], key := "strikethrough_phrase", action := .value .text []
     default := .str usual.strikethroughPhrase },
   optionSwitch "warn_on_unknown_kinds" "no-warn-on-unknown-kinds" usual.warnOnUnknownKinds]

/-- The name and version of the program. -/
def versionText : String :=
  "mdplain " ++ (Package.Installation.usual.version? "mdplain").getD "unknown" ++ "\n"

/-- A flag that switches something on. -/
def switchOn (flag key : String) : Setting :=
  { flags := [flag], key, action := .switch true, default := .bool false }

/-- The names of log thresholds that can be given. -/
def levelChoices : List String := ["DEBUG", "INFO", "WARNING", "ERROR", "CRITICAL"]

/-- The operand that stands for standard input. -/
def standardInput : String := "-"

/-- What the program takes on its command line. -/
def program : Interface :=
  { program := "mdplain"
    operand := some ("input", standardInput)
    settings :=
      [{ flags := ["-h", "--help"], key := "help", action := .announce .help },
       { flags := ["--out", "-o"], key := "out", action := .value .text [] },
       switchOn "--from-json" "from_json",
       switchOn "--rich" "rich",
       { flags := ["--log-level"], key := "log_level", action := .value .capitals levelChoices
         default := .str "WARNING" },
       { flags := ["--log-file"], key := "log_file", action := .value .text [] },
       switchOn "--trace" "trace"]
      ++ markdownSettings ++ renderSettings
      ++ [{ flags := ["--version", "-V"], key := "version", action := .announce (.text versionText) }] }

/-- Named values that options know. -/
def known (names : List String) (values : Fields) : Fields := values.filter fun v => names.contains v.1

/-- The fault about option values that are refused. -/
def refusedValues (owner : String) (e : OptionError) : Failure :=
  match e with
  | .unknownName .. => e.failure
  | .emptySeparator => .fault (.validation e.message (some owner) (some .value))

/-- The options of reading Markdown among named values. -/
def markdownOptions (values : Fields) : Except Failure Markdown.Options :=
  (Markdown.Options.ofFields (known Markdown.Options.names values)).mapError
    (refusedValues Markdown.Options.owner)

/-- The options of rendering among named values. -/
def renderOptions (values : Fields) : Except Failure PlainText.Options :=
  (PlainText.Options.ofFields (known PlainText.Options.names values)).mapError
    (refusedValues PlainText.Options.owner)

end Unmark.CommandLine
