import Unmark.Log.Setup

/-
Module: Unmark.Log.History
Layer: Log
Purpose: What happens to a log in the course of time. Here configuring it is a sequence of steps of which each
  changes the state on its own, so that a failure leaves behind what the steps in front of it have done:
  the threshold is looked up before anything changes, and a log file is opened after all else. Other
  programs put handlers of their own among those of the log and take them away, records are written, and
  files change. Of what has happened two things count later: whose handlers are there, and which
  handlers were installed.
Main exports: State, configuring, Act, State.after, State.history, Act.others, State.installed
-/

namespace Unmark.Log

/-- The state of a log: its setup, and what it writes to. -/
structure State where
  setup : Setup := {}
  outlets : Outlets := {}
deriving DecidableEq, Repr, Inhabited

/-! ## Configuring in steps -/

/-- Steps on a log. What they have done stays done when one fails. -/
abbrev Stepping := ExceptT Misconfigured (StateM State)

/-- A step that changes the setup. -/
def rearrange (change : Setup → Setup) : Stepping Unit := modify fun s => { s with setup := change s.setup }

/-- Removes a handler and closes it. -/
def retire (h : Handler) : Stepping Unit :=
  rearrange fun s => { s with handlers := s.handlers.erase h, closed := s.closed ++ [h] }

/-- Adds a handler that was made just now. -/
def install (h : Handler) : Stepping Unit := rearrange fun s => { s with handlers := s.handlers ++ [h] }

/-- Opens the log file. -/
def openLog (around : Surroundings) (file : String) : Stepping Unit := do
  let s ← get
  let opened := s.setup.openFile around s.outlets file
  set ({ setup := opened.setup, outlets := opened.outlets } : State)
  MonadExcept.ofExcept opened.result

/-- The handlers that configuring has put into a setup. -/
def Setup.own (s : Setup) : List Handler := s.handlers.filter Handler.isOwn

/-- Configures the log, step by step. -/
def configuring (around : Surroundings) (wanted : Wanted) (file : String) (traced : Bool) : Stepping Unit := do
  match wanted.resolve traced with
  | .error u => throw (.level u)
  | .ok level =>
    rearrange fun s => { s with level }
    let s ← get
    s.setup.own.forM retire
    install (.console traced level)
    if file = "" then pure () else openLog around file

/-! ## What happens -/

/-- Something that happens to a log. -/
inductive Act where
  /-- It is configured. -/
  | configure (around : Surroundings) (wanted : Wanted) (file : String) (traced : Bool)
  /-- Somebody else adds a handler. -/
  | adopt (id : Nat)
  /-- Somebody else removes a handler. -/
  | release (id : Nat)
  /-- A record is given to it. -/
  | deliver (around : Surroundings) (r : Record)
  /-- The files and the console become what they are by the work of others. -/
  | outside (o : Outlets)
deriving Inhabited

/-- The state after something has happened, be it that it has failed. -/
def State.after (s : State) : Act → State
  | .configure around wanted file traced => ((configuring around wanted file traced).run.run s).2
  | .adopt id => { s with setup := s.setup.adopt id }
  | .release id => { s with setup := s.setup.release id }
  | .deliver around r => { s with outlets := s.setup.deliver around s.outlets r }
  | .outside o => { s with outlets := o }

/-- The state after one thing has happened after the other. -/
def State.history (s : State) (acts : List Act) : State := acts.foldl State.after s

/-- The number of a handler of somebody else. -/
def Handler.foreign? : Handler → Option Nat
  | foreign id => some id
  | _ => none

/-- The handlers of others in a setup, by their numbers. -/
def Setup.others (s : Setup) : List Nat := s.handlers.filterMap Handler.foreign?

/-- The handlers of others after something has happened. Only they themselves change them: a new handler
    comes to the end, and one that is there already stays where it is. -/
def Act.others (ids : List Nat) : Act → List Nat
  | adopt id => if id ∈ ids then ids else ids ++ [id]
  | release id => ids.erase id
  | _ => ids

/-- The path of a log file. -/
def logPath (name : String) : Files.Path := (Files.Path.ofString name).collapsed

/-- Whether a log file is named as no file can be. -/
def isUnnameable (name : String) : Bool := name ≠ "" && (logPath name).isUnnameable

/-- Whether a log file is named and can be opened. -/
def opens (files : Files.Store) (name : String) : Bool := name ≠ "" && (files.append (logPath name) []).isOk

/-- The handlers of a log with a threshold: one for the console, and one for its file if that can be
    opened. -/
def handlersFor (files : Files.Store) (file : String) (traced : Bool) (level : Int) : List Handler :=
  .console traced level :: if opens files file then [.file (logPath file) level] else []

/-- The handlers that are installed when something happens in a state. -/
def Act.installed (s : State) : Act → List Handler
  | configure _ wanted file traced =>
    match wanted.resolve traced with
    | .ok level => handlersFor s.outlets.files file traced level
    | .error _ => []
  | _ => []

/-- The handlers that are installed one after the other in the course of time. -/
def State.installed (s : State) : List Act → List Handler
  | [] => []
  | a :: acts => a.installed s ++ (s.after a).installed acts

end Unmark.Log
