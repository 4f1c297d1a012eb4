import Unmark.CommandLine.Manual
import Unmark.CommandLine.Program
import Unmark.Files.Sink
import Unmark.Log.Setup
import Unmark.Markdown.Document
import Unmark.Panel.Frame
import Unmark.Tree.Load

/-
Module: Unmark.CommandLine.Run
Layer: CommandLine
Purpose: A run of the program. It reads its command line, configures the log, and converts the input to plain
  text, which it writes to a file, shows in a frame or prints. A fault is reported in one line and ends
  the run with code 1; other failures are let through. What is written before a failure stays written.
Main exports: Invocation, Ending, Outcome, convert, emit, run
-/

namespace Unmark.CommandLine

/-- What a run depends on. The words of its command line are texts, so they have no halves of surrogate pairs. -/
structure Invocation where
  argv : List String
  environment : Environment := []
  input : List UInt8 := []
  files : Files.Store := []
  display : Panel.Display := .pipe
  surroundings : Log.Surroundings
  manual : Manual := {}
  /-- The time that a stage takes, for the log. -/
  elapsed : String
deriving Inhabited

/-- How a run ends. -/
inductive Ending where
  /-- The program has come to its end, with an exit code. -/
  | finished (code : Nat)
  /-- The command line has stopped it, with an exit code. -/
  | stopped (code : Nat)
  | failed (f : Failure)
deriving DecidableEq, Repr, Inhabited

/-- What a run has written so far, and its log set-up. -/
structure Session where
  setup : Log.Setup := {}
  outlets : Log.Outlets := {}
  output : String := ""
deriving Inhabited

/-- Steps of a run. What they write stays when one fails. -/
abbrev Running := ExceptT Failure (StateM Session)

/-- Records on their way to where the log set-up sends them. -/
def logged (surroundings : Log.Surroundings) (rs : List Log.Record) (s : Session) : Session :=
  { s with outlets := s.setup.deliverAll surroundings s.outlets rs }

/-- Notes records. -/
def note (inv : Invocation) (rs : List Log.Record) : Running Unit := modify (logged inv.surroundings rs)

/-- The text that a value under a key is, or the empty one. -/
def textUnder (values : Fields) (key : String) : String :=
  match values.get? key with
  | some (.str s) => s
  | _ => ""

/-- Whether the value under a key stands for yes. -/
def isSet (values : Fields) (key : String) : Bool := ((values.get? key).map Data.truthy).getD false

/-- The log threshold that is asked for. -/
def wantedLevel (values : Fields) : Log.Wanted :=
  match values.get? "log_level" with
  | some (.str s) => .name s
  | some (.int n) => .number n
  | _ => .blank

/-- Configures the log. -/
def configureLog (inv : Invocation) (values : Fields) : Running Unit := do
  let s ← get
  let c := Log.Setup.configure inv.surroundings (wantedLevel values) (textUnder values "log_file")
    (isSet values "trace") s.setup s.outlets
  set { s with setup := c.setup, outlets := c.outlets }
  match c.result with
  | .ok _ => pure ()
  | .error m => throw (.plain .value m.message)

/-- The bytes of the input, which are those of standard input or of a file. If it is refused to look up its name, the
    refusal is let through. -/
def inputBytes (inv : Invocation) (name : String) : Running (List UInt8) := do
  if name = standardInput then return inv.input
  else
    let files := (← get).outlets.files
    let path := Files.Path.ofString name
    match files.find path with
    | .error r => throw r.failure
    | .ok (some (.file ..)) =>
      match files.read path with
      | .ok content => return content
      | .error r =>
        throw (.fault (.file ("Could not read input: " ++ r.message) (some name) (some r.cause)))
    | .ok _ => throw (.fault (.fileMissing name none none))

/-- The record that a stage has come to its end. -/
def stageRecord (inv : Invocation) (source : Log.Source) (stage : String) : Log.Record :=
  source.record .debug s!"{stage} completed in {inv.elapsed}"

/-- The tree of an input: it is written in JSON, or read from Markdown. JSON can have halves of surrogate pairs, and is
    read twice for them. -/
def readTree (inv : Invocation) (json : Bool) (o : Markdown.Options) (content : List UInt8) :
    Running (Twice Node) := do
  let r := Charset.readText content
  note inv r.log
  let text := String.ofList r.text
  if json then
    match Node.ofJson text with
    | .ok tree => return ⟨tree, (Node.ofJsonWith Text.otherPlane text).toOption.getD tree⟩
    | .error e => throw e.failure
  else
    match Markdown.parse o text with
    | .ok p =>
      note inv (p.log ++ [stageRecord inv .parsing "Parsing (markdown)"])
      return .same p.tree
    | .error f => throw f.failure

/-- The first fragment of a rendering that is the phrase for struck-through text, by its number: there, the
    fragments for two different phrases differ. -/
def phrasePlace? (o : PlainText.Options) (tree : Node) : Option Nat :=
  let fragments (phrase : String) : List PlainText.Fragment :=
    (PlainText.typeset { o with strikethroughPhrase := phrase } tree).2.written.reverse
  ((fragments "a").zip (fragments "b")).findIdx? fun (a, b) => a != b

/-- The records of two renderings of what was read twice. -/
def toldTwice (rs others : List Log.Record) : List Log.Record :=
  rs.mapIdx fun n r => r.ofTwice (others[n]?.elim r.text Log.Record.text)

/-- The text of a tree. A phrase that was announced and then not given is only missed where it is needed, and
    only after all else was found in order. -/
def renderTree (inv : Invocation) (blankPhrase : Bool) (o : PlainText.Options) (tree : Twice Node) :
    Running (Twice String) := do
  let r := PlainText.render o tree.usual
  let other := PlainText.render o tree.other
  note inv (toldTwice r.log other.log)
  match r.text with
  | .error e => throw e.failure
  | .ok text =>
    note inv [stageRecord inv .rendering "Rendering (plaintext)"]
    match blankPhrase, phrasePlace? o tree.usual with
    | true, some n => throw (.plain .type s!"sequence item {n}: expected str instance, list found")
    | _, _ => return ⟨text, other.text.toOption.getD text⟩

/-- Whether a value was announced and then not given. -/
def isBlank (values : Fields) (key : String) : Bool :=
  match values.get? key with
  | some (.list _) => true
  | _ => false

/-- The plain text of the input. -/
def convert (inv : Invocation) (values : Fields) : Running (Twice String) := do
  let reading ← liftExcept (markdownOptions values)
  let rendering ← liftExcept (renderOptions values)
  let content ← inputBytes inv (textUnder values "input")
  let tree ← readTree inv (isSet values "from_json") reading content
  renderTree inv (isBlank values "strikethrough_phrase") rendering tree
where
  /-- A result that fails or not, as a step. -/
  liftExcept {α : Type} (r : Except Failure α) : Running α :=
    match r with
    | .ok a => pure a
    | .error f => throw f

/-- The title of the frame around a text. -/
def frameTitle (input : String) : String :=
  if input = standardInput then "stdin" else (Files.Path.ofString input).name

/-- The failure of encoding a text with halves of surrogate pairs. -/
def encodingFailure (h : Halves) (advice : String := "") : Failure := .plain .encoding (h.message ++ advice)

/-- Gives the file that is named for the text a content. -/
def fillFile (out content : String) : Running Unit := do
  let s ← get
  match (Files.Sink.file out).writeOutput s.outlets.files content with
  | .error f => throw f
  | .ok w => set { s with outlets := { s.outlets with files := w.files } }

/-- Writes a text to a file. A text that cannot be encoded leaves the file empty. -/
def emitFile (inv : Invocation) (out : String) (text : Twice String) : Running Unit := do
  match text.halves? with
  | some h =>
    fillFile out ""
    throw (encodingFailure h)
  | none =>
    fillFile out text.usual
    note inv [Log.Source.commandLine.record .info s!"Wrote {text.usual.length} characters to {out}"]

/-- Prints a text. One that cannot be encoded is not printed, and there may be some advice about that. -/
def print (text : Twice String) (advice : String := "") : Running Unit :=
  match text.halves? with
  | some h => throw (encodingFailure h advice)
  | none => modify fun s => { s with output := s.output ++ text.usual }

/-- The advice about a frame that cannot be encoded. -/
def frameAdvice : String := "\n*** You may need to add PYTHONIOENCODING=utf-8 to your environment ***"

/-- Writes the text to a file, shows it in a frame or prints it. -/
def emit (inv : Invocation) (values : Fields) (text : Twice String) : Running Unit := do
  let out := textUnder values "out"
  let title := frameTitle (textUnder values "input")
  if out ≠ "" then emitFile inv out text
  else if Panel.wanted (isSet values "rich") false inv.display then
    match Panel.draw text.usual title, Panel.draw text.other title with
    | .ok frame, .ok other => print ⟨frame, other⟩ frameAdvice
    | .error e, _ | _, .error e => throw (.plain .markup e.message)
  else print (text.map (· ++ "\n"))

/-- All steps of a run once the command line is read. -/
def steps (inv : Invocation) (values : Fields) : Running Unit := do
  configureLog inv values
  let text ← convert inv values
  emit inv values text

/-- What a run comes to. -/
structure Outcome where
  ending : Ending
  output : String
  console : String
  files : Files.Store
deriving Inhabited

/-- A line about a fault on the console, after a record in the log. -/
def report (inv : Invocation) (f : Fault) (s : Session) : Session :=
  let s := logged inv.surroundings
    [Log.Source.commandLine.record .debug "Conversion failed" (some (.trace f))] s
  { s with outlets := { s.outlets with console := s.outlets.console ++ s!"Error: {f.message}\n" } }

/-- The outcome of a run that ends in some way. -/
def Session.outcome (s : Session) (ending : Ending) : Outcome :=
  ⟨ending, s.output, s.outlets.console, s.outlets.files⟩

/-- What a run comes to that is stopped by its command line. -/
def stoppedOutcome (inv : Invocation) : Stop → Outcome
  | .misuse message =>
    ⟨.stopped 2, "", inv.manual.usage ++ s!"{program.program}: error: {message}\n", inv.files⟩
  | .announced a => ⟨.stopped 0, inv.manual.announced a, "", inv.files⟩

/-- A run of the program. -/
def run (inv : Invocation) : Outcome :=
  match program.parse inv.environment inv.argv with
  | .error stop => stoppedOutcome inv stop
  | .ok values =>
    let start : Session := { outlets := { files := inv.files } }
    match (steps inv values).run.run start with
    | (.ok _, s) => s.outcome (.finished 0)
    | (.error (.fault f), s) => (report inv f s).outcome (.finished 1)
    | (.error f, s) => s.outcome (.failed f)

end Unmark.CommandLine
