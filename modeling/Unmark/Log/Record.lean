import Unmark.Fault
import Unmark.Text.Half

/-
Module: Unmark.Log.Record
Layer: Log
Purpose: Log records. A record has a severity, the name of the logger that it was given to, and a text.
  The library's functions return the records that they make; where they go is decided by whoever holds
  the log set-up. A record may go on with words that are not the program's own, such as the complaint of a
  reader of YAML; they are not part of the record, which only tells what they are about.
Main exports: Severity, Severity.number, Remark, Record, Record.ofTwice, Source
-/

namespace Unmark.Log

/-- The severities of records. -/
inductive Severity where
  | debug | info | warning | error | critical
deriving DecidableEq, Repr, Inhabited

/-- The number of a severity. Thresholds are numbers too, and may lie between these. -/
def Severity.number : Severity → Int
  | debug => 10
  | info => 20
  | warning => 30
  | error => 40
  | critical => 50

/-- The name of a severity in the text of a record. -/
def Severity.name : Severity → String
  | debug => "DEBUG"
  | info => "INFO"
  | warning => "WARNING"
  | error => "ERROR"
  | critical => "CRITICAL"

/-- Words that are not the program's own, by what they are about. -/
inductive Remark where
  /-- What a reader of YAML has to say about a text that it cannot load. -/
  | complaint (source : String)
  /-- The way that a fault has come. -/
  | trace (f : Fault)
  /-- What is said about a record that could not be encoded. -/
  | unencoded (text : String)
deriving DecidableEq, Repr, Inhabited

/-- What stands between a text and the words that it goes on with. -/
def Remark.lead : Remark → String
  | complaint _ => ": "
  | trace _ => "\n"
  | unencoded _ => ""

/-- A log record. -/
structure Record where
  severity : Severity
  logger : String
  text : String
  /-- What the text goes on with. -/
  remark : Option Remark := none
  /-- Whether the text can be encoded. One with halves of surrogate pairs, which shows them as escapes, cannot. -/
  encodable : Bool := true
deriving DecidableEq, Repr, Inhabited

/-- A record whose text was read twice. -/
def Record.ofTwice (r : Record) (other : String) : Record :=
  let text : Twice String := ⟨r.text, other⟩
  if text.halves?.isSome then { r with text := text.shown, encodable := false } else r

/-- The parts of the program that write records. -/
inductive Source where
  | package | commandLine | encoding | parsing | rendering
deriving DecidableEq, Repr, Inhabited

/-- The logger of a part of the program. -/
def Source.logger : Source → String
  | package => "mdplain"
  | commandLine => "mdplain.cli"
  | encoding => "mdplain.utils.encoding"
  | parsing => "mdplain.parsers.markdown"
  | rendering => "mdplain.renderers.plaintext"

/-- A record of a part of the program. -/
def Source.record (source : Source) (severity : Severity) (text : String) (remark : Option Remark := none) :
    Record :=
  { severity, logger := source.logger, text, remark }

end Unmark.Log
