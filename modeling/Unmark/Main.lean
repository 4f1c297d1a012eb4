import Std.Time.Format
import Unmark.CommandLine.Run

/-
Module: Unmark.Main
Layer: program
Purpose: The program. It gathers what a run depends on (the environment, the files that the command line names,
  standard input if it is asked for) and then writes what the run has come to.
Main exports: main
-/

namespace Unmark.Main

open CommandLine

/-- All that is left of a stream. -/
partial def readAll (stream : IO.FS.Stream) (before : ByteArray) : IO ByteArray := do
  let chunk ← stream.read 65536
  if chunk.isEmpty then return before else readAll stream (before ++ chunk)

/-- What the file system has under a name. -/
def entryOf (name : String) : IO (Option Files.Entry) := do
  try
    let content ← IO.FS.readBinFile name
    return some (.openFile content.toList)
  catch e =>
    match e with
    | .inappropriateType .. => return some .openDirectory
    | .permissionDenied .. => return some (.file [] { reading := some .denied })
    | _ => return none

/-- A store with all that the file system has on the way to a path. -/
def load (files : Files.Store) (name : String) : IO Files.Store := do
  let path := Files.Path.ofString name
  let mut files := files
  let mut here : List String := if path.root = "" then [] else [Files.Store.rootPart]
  for part in path.parts do
    here := if part = ".." then Files.Store.above here else part :: here
    let parts := here.reverse
    if (files.entry? parts).isNone then
      match ← entryOf (Files.Store.partsText parts) with
      | some entry => files := files ++ [(parts, entry)]
      | none => pure ()
  return files

/-- The environment variables that the program looks at. -/
def environment : IO Environment :=
  program.settings.filterMapM fun s => do
    let name := environmentKey s.key
    return (← IO.getEnv name).map fun value => (name, value)

/-- The files that differ in a store from what they were. -/
def changed (before after : Files.Store) : List (String × List UInt8) :=
  after.filterMap fun (parts, entry) =>
    match entry with
    | .file content _ =>
      if before.lookup parts == some entry then none else some (Files.Store.partsText parts, content)
    | .directory _ => none

/-- The words that records go on with. -/
def remark : Log.Remark → String
  | .complaint _ => Yaml.Fault.invalid.message
  | .trace f => f.message
  | .unencoded text => text ++ "\n"

/-- What a run depends on. Nothing is read for a command line that stops the run. -/
def gather (argv : List String) : IO Invocation := do
  let env ← environment
  let stdout ← IO.getStdout
  let now ← Std.Time.PlainDateTime.now
  let directory ← IO.currentDir
  let invocation : Invocation :=
    { argv
      environment := env
      display := if ← stdout.isTty then .terminal else .pipe
      surroundings :=
        { time := now.format "uuuu-MM-dd HH:mm:ss", directory := toString directory, remark }
      manual := .standard
      elapsed := "0.0000s" }
  match program.parse env argv with
  | .error _ => return invocation
  | .ok values =>
    let mut files : Files.Store := []
    for key in ["input", "out", "log_file"] do
      files ← load files (textUnder values key)
    let input ←
      if textUnder values "input" = standardInput then readAll (← IO.getStdin) .empty
      else pure .empty
    return { invocation with files, input := input.toList }

/-- Writes what a run has come to, and gives the exit code. -/
def deliver (before : Files.Store) (outcome : Outcome) : IO UInt32 := do
  for (name, content) in changed before outcome.files do
    IO.FS.writeBinFile name ⟨content.toArray⟩
  IO.print outcome.output
  IO.eprint outcome.console
  match outcome.ending with
  | .finished code | .stopped code => return code.toUInt32
  | .failed f =>
    IO.eprintln f.message
    return 1

end Unmark.Main

/-- Runs the program. -/
def main (argv : List String) : IO UInt32 := do
  let invocation ← Unmark.Main.gather argv
  Unmark.Main.deliver invocation.files (Unmark.CommandLine.run invocation)
