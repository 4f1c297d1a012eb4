import Unmark.CommandLine.Interface

/-
Module: Unmark.CommandLine.Manual
Layer: CommandLine
Purpose: What is printed about the use of the program. Its layout depends on the width of the terminal; here it
  is set for the usual width of eighty columns.
Main exports: Manual, Manual.announced, Manual.standard
-/

namespace Unmark.CommandLine

/-- What is printed about the use of the program: in front of a complaint about a command line, and as help. -/
structure Manual where
  usage : String := ""
  help : String := ""
deriving Inhabited

namespace Manual

/-- The text of an announcement. -/
def announced (m : Manual) : Announcement → String
  | .help => m.help
  | .text s => s

/-- The lines about the use of the program. -/
def usageLines : List String :=
  ["usage: mdplain [-h] [--out OUT] [--from-json] [--rich]",
   "               [--log-level \x7bDEBUG,INFO,WARNING,ERROR,CRITICAL\x7d]",
   "               [--log-file LOG_FILE] [--trace] [--no-strikethrough]",
   "               [--no-tables] [--no-footnotes] [--no-task-lists]",
   "               [--no-frontmatter] [--emit-frontmatter] [--emit-definitions]",
   "               [--block-separator BLOCK_SEPARATOR]",
   "               [--strikethrough-phrase STRIKETHROUGH_PHRASE]",
   "               [--no-warn-on-unknown-kinds] [--version]",
   "               [input]"]

/-- The lines about what the program does and about its options. -/
def optionLines : List String :=
  ["",
   "Render Markdown (or a serialized mdast tree) as plain text.",
   "",
   "positional arguments:",
   "  input                 Markdown file to convert, or '-' for stdin (default:",
   "                        stdin)",
   "",
   "options:",
   "  -h, --help            show this help message and exit",
   "  --out OUT, -o OUT     Write output to this file",
   "  --from-json           Treat the input as a JSON-serialized mdast tree",
   "                        instead of Markdown",
   "  --rich                Show the result in a rich panel when writing to a",
   "                        terminal",
   "  --version, -V         show program's version number and exit",
   "",
   "logging:",
   "  --log-level \x7bDEBUG,INFO,WARNING,ERROR,CRITICAL\x7d",
   "                        Logging level (default: WARNING)",
   "  --log-file LOG_FILE   Also log to this file",
   "  --trace               Verbose logging with timestamps (implies --log-level",
   "                        DEBUG)",
   "",
   "markdown parsing:",
   "  --no-strikethrough    Parse strikethrough syntax (~~text~~)",
   "  --no-tables           Parse table syntax (GFM pipe tables)",
   "  --no-footnotes        Parse footnote references and definitions",
   "  --no-task-lists       Parse task list checkboxes (- [ ] and - [x])",
   "  --no-frontmatter      Parse YAML front matter at document start",
   "  --emit-frontmatter    Keep front matter as a node in the tree",
   "  --emit-definitions    Keep link reference definitions as nodes in the tree",
   "",
   "plain text rendering:",
   "  --block-separator BLOCK_SEPARATOR",
   "                        Separator inserted between sibling blocks (default:",
   "                        '\\n')",
   "  --strikethrough-phrase STRIKETHROUGH_PHRASE",
   "                        Phrase emitted before struck-through text (default:",
   "                        'strikethrough: ')",
   "  --no-warn-on-unknown-kinds",
   "                        Log unknown node kinds as warnings",
   "",
   "Every option also reads a default from MDPLAIN_<DEST>, e.g.",
   "MDPLAIN_LOG_LEVEL=DEBUG."]

/-- A text of lines. -/
def ofLines (lines : List String) : String := String.join (lines.map (· ++ "\n"))

/-- The manual for a terminal of eighty columns. -/
def standard : Manual where
  usage := ofLines usageLines
  help := ofLines (usageLines ++ optionLines)

end Manual

end Unmark.CommandLine
