import Unmark.Files.Store
import Unmark.Log.Level

/-
Module: Unmark.Log.Setup
Layer: Log
Purpose: Where log records go. The package's logger has a threshold and handlers. Configuring it replaces the
  handlers that configuring has put there before, which are closed, and leaves those of others where
  they are. A log file that cannot be opened is reported on the console and otherwise left out, unless its name is
  none that a file can have.
Main exports: Handler, Setup, Outlets, Surroundings, Setup.configure, Setup.deliver
-/

namespace Unmark.Log

/-- A handler of records. -/
inductive Handler where
  /-- A handler of somebody else, known by a number, that keeps to itself what it does. -/
  | foreign (id : Nat)
  /-- Writes on the console, in the long form if `traced` is set. -/
  | console (traced : Bool) (level : Int)
  /-- Writes at the end of a file, in the long form. -/
  | file (path : Files.Path) (level : Int)
deriving DecidableEq, Repr, Inhabited

/-- Whether configuring has put a handler there. -/
def Handler.isOwn : Handler → Bool
  | foreign _ => false
  | _ => true

/-- The state of the package's logger: its threshold, its handlers, and the handlers that were closed, in the
    order of their closing. -/
structure Setup where
  level : Int := Severity.debug.number
  handlers : List Handler := [.foreign 0]
  closed : List Handler := []
deriving DecidableEq, Repr, Inhabited

/-- What records are written to. -/
structure Outlets where
  files : Files.Store := []
  console : String := ""
deriving DecidableEq, Repr, Inhabited

/-- What the text of records depends on besides the records: the time, the name of the current directory, and the
    words of others. -/
structure Surroundings where
  time : String
  directory : String
  remark : Remark → String
deriving Inhabited

/-- The text of a record with what it goes on with. -/
def Record.whole (around : Surroundings) (r : Record) : String :=
  match r.remark with
  | none => r.text
  | some m => r.text ++ m.lead ++ around.remark m

/-- The short form of a record. -/
def Record.short (around : Surroundings) (r : Record) : String := s!"{r.severity.name}: {r.whole around}\n"

/-- The long form of a record. -/
def Record.long (around : Surroundings) (r : Record) : String :=
  s!"[{around.time}] [{r.severity.name}] [{r.logger}] {r.whole around}\n"

/-- What the console shows in place of a record that cannot be encoded for a file. -/
def Record.unwritten (around : Surroundings) (r : Record) : String :=
  "--- Logging error ---\n" ++ around.remark (.unencoded r.text)

/-- Whether a record was given to the package's logger or to one below it. -/
def Record.isOfPackage (r : Record) : Bool :=
  let own := Source.package.logger.toList
  match Text.after? own r.logger.toList with
  | some rest => rest.isEmpty || rest.head? == some '.'
  | none => false

namespace Setup

/-- The threshold when none is set. -/
def rootLevel : Int := Severity.warning.number

/-- The threshold of the package's logger; the number zero stands for none. -/
def threshold (s : Setup) : Int := if s.level = 0 then rootLevel else s.level

/-- The work of one handler. -/
def handle (around : Surroundings) (r : Record) (o : Outlets) : Handler → Outlets
  | .foreign _ => o
  | .console traced level =>
    if level ≤ r.severity.number then
      { o with console := o.console ++ (if traced then r.long around else r.short around) }
    else o
  | .file path level =>
    if level ≤ r.severity.number then
      if r.encodable then
        match o.files.append path (Charset.encodeUtf8 (r.long around).toList) with
        | .ok files => { o with files }
        | .error _ => o
      else { o with console := o.console ++ r.unwritten around }
    else o

/-- A record on its way. Those of other programs' loggers have no handler: the text of the grave ones is put
    on the console. -/
def deliver (around : Surroundings) (s : Setup) (o : Outlets) (r : Record) : Outlets :=
  if r.isOfPackage then
    if s.threshold ≤ r.severity.number then s.handlers.foldl (handle around r) o else o
  else if rootLevel ≤ r.severity.number then { o with console := o.console ++ r.whole around ++ "\n" }
  else o

/-- Records on their way, one after the other. -/
def deliverAll (around : Surroundings) (s : Setup) (o : Outlets) (rs : List Record) : Outlets :=
  rs.foldl (s.deliver around) o

/-- A setup with a handler of somebody else. One that is there already stays where it is. -/
def adopt (s : Setup) (id : Nat) : Setup :=
  if .foreign id ∈ s.handlers then s else { s with handlers := s.handlers ++ [.foreign id] }

/-- A setup without a handler of somebody else. -/
def release (s : Setup) (id : Nat) : Setup := { s with handlers := s.handlers.erase (.foreign id) }

/-- A setup with a threshold and with no handlers of its own but one for the console. -/
def renewed (s : Setup) (level : Int) (traced : Bool) : Setup :=
  { level
    handlers := s.handlers.filter (!·.isOwn) ++ [.console traced level]
    closed := s.closed ++ s.handlers.filter Handler.isOwn }

/-- What configuring the log comes to: whether it fails, and the setup and the outlets that it leaves. -/
structure Configured where
  result : Except Misconfigured Unit := .ok ()
  setup : Setup
  outlets : Outlets
deriving Inhabited

/-- A setup with a log file, which is opened, and with the records about it delivered. -/
def openFile (around : Surroundings) (s : Setup) (o : Outlets) (name : String) : Configured :=
  let path := (Files.Path.ofString name).collapsed
  match o.files.append path [] with
  | .ok files =>
    let setup := { s with handlers := s.handlers ++ [.file path s.level] }
    { setup
      outlets := setup.deliver around { o with files }
        (Source.package.record .info s!"Logging to file: {name}") }
  | .error r =>
    let refusal : Files.Refusal := ⟨r.reason, path.absolute around.directory⟩
    if r.reason = .badName then
      { result := .error (.fileName refusal.message), setup := s, outlets := o }
    else
      { setup := s
        outlets := s.deliver around o
          (Source.package.record .warning s!"Could not create log file {name}: {refusal.message}") }

/-- The log configured anew. An unknown threshold changes nothing. -/
def configure (around : Surroundings) (wanted : Wanted) (file : String) (traced : Bool) (s : Setup)
    (o : Outlets) : Configured :=
  match wanted.resolve traced with
  | .error u => { result := .error (.level u), setup := s, outlets := o }
  | .ok level =>
    let s := s.renewed level traced
    if file = "" then { setup := s, outlets := o } else s.openFile around o file

end Setup

end Unmark.Log
