import Unmark.Proofs.RunEndings
import Unmark.Proofs.StoreWrites

/-
Module: Unmark.Proofs.RunOutput
Layer: Proofs
Purpose: What a run writes besides its log. Converting only notes records, and these go to the console and to
  the log file; so a run that cannot convert its input has printed nothing, and the file that is to take
  the text is as it was, even if the input was read from it. A run that comes to its end has put the text
  in that file, or has printed it.
Main exports: Log.Setup.Beside, CommandLine.LogsElsewhere, CommandLine.run_output
-/

namespace Unmark

open Files

namespace Log.Setup

variable {p : Path} {s : Store} {o : Outlets} {setup : Setup} (around : Surroundings)

/-- No handler writes where a path leads to. -/
def Beside (p : Path) (s : Store) (setup : Setup) : Prop :=
  ∀ path level, Handler.file path level ∈ setup.handlers → ¬ s.SamePlace path p

theorem Beside.of_sameDirectories {s' : Store} (beside : setup.Beside p s)
    (same : Store.SameDirectories s s') : setup.Beside p s' :=
  fun path level mem one => beside path level mem (same.samePlace one)

theorem spares_handle (r : Record) {h : Handler}
    (beside : ∀ path level, h = .file path level → ¬ o.files.SamePlace path p) :
    Store.Spares p o.files (handle around r o h).files := by
  cases h with
  | foreign id => exact .refl p _
  | console traced level =>
      unfold handle
      dsimp only
      split <;> exact .refl p _
  | file path level =>
      unfold handle
      dsimp only
      split
      · split
        · split
          · rename_i appended
            exact Store.spares_append appended (beside path level rfl)
          · exact .refl p _
        · exact .refl p _
      · exact .refl p _

theorem spares_deliver (beside : setup.Beside p o.files) (r : Record) :
    Store.Spares p o.files (setup.deliver around o r).files := by
  unfold deliver
  split
  · split
    · unfold Beside at beside
      generalize setup.handlers = handlers at beside
      -- One handler leaves the directories, so the others write beside the path, too.
      induction handlers generalizing o with
      | nil => exact .refl p _
      | cons h handlers ih =>
          have first : Store.Spares p o.files (handle around r o h).files := by
            refine spares_handle around r ?_
            rintro path level rfl
            exact beside path level List.mem_cons_self
          refine first.trans (ih ?_)
          intro path level mem one
          exact beside path level (List.mem_cons_of_mem h mem) (first.directories.samePlace one)
    · exact .refl p _
  · split <;> exact .refl p _

theorem spares_deliverAll (beside : setup.Beside p o.files) (rs : List Record) :
    Store.Spares p o.files (setup.deliverAll around o rs).files := by
  unfold deliverAll
  induction rs generalizing o with
  | nil => exact .refl p _
  | cons r rs ih =>
      have first := spares_deliver around beside r
      exact first.trans (ih (beside.of_sameDirectories first.directories))

/-- A set-up with a log file that is not where a path leads to. -/
theorem spares_openFile {name : String} (beside : setup.Beside p o.files)
    (apart : ¬ o.files.SamePlace (Path.ofString name).collapsed p) :
    (setup.openFile around o name).setup.Beside p (setup.openFile around o name).outlets.files ∧
      Store.Spares p o.files (setup.openFile around o name).outlets.files := by
  unfold openFile
  dsimp only
  split
  · rename_i files opened
    have created : Store.Spares p o.files files := Store.spares_append opened apart
    have both : Beside p files
        { setup with handlers := setup.handlers ++ [.file (Path.ofString name).collapsed setup.level] } := by
      intro path level mem
      rcases List.mem_append.1 mem with mem | mem
      · exact (beside.of_sameDirectories created.directories) path level mem
      · cases List.mem_singleton.1 mem
        exact fun one => apart (created.directories.samePlace one)
    have told := spares_deliver (o := { o with files }) around both
      (Source.package.record .info s!"Logging to file: {name}")
    exact ⟨both.of_sameDirectories told.directories, created.trans told⟩
  · split
    · exact ⟨beside, .refl p _⟩
    · have told := spares_deliver around beside
      exact ⟨beside.of_sameDirectories (told _).directories, told _⟩

/-- A set-up that is made anew has no log file. -/
theorem beside_renewed (setup : Setup) (level : Int) (traced : Bool) :
    (setup.renewed level traced).Beside p s := by
  intro path level' mem
  rcases List.mem_append.1 mem with mem | mem
  · cases (List.mem_filter.1 mem).2
  · cases List.mem_singleton.1 mem

theorem spares_configure (wanted : Wanted) (file : String) (traced : Bool) (beside : setup.Beside p o.files)
    (apart : file = "" ∨ ¬ o.files.SamePlace (Path.ofString file).collapsed p) :
    (configure around wanted file traced setup o).setup.Beside p
        (configure around wanted file traced setup o).outlets.files ∧
      Store.Spares p o.files (configure around wanted file traced setup o).outlets.files := by
  unfold configure
  split
  · exact ⟨beside, .refl p _⟩
  · rename_i level _
    have none := beside_renewed (p := p) (s := o.files) setup level traced
    dsimp only
    split
    · exact ⟨none, .refl p _⟩
    · rename_i named
      exact spares_openFile around none (apart.resolve_left named)

end Log.Setup

namespace CommandLine

open Running

variable {inv : Invocation} {values : Fields}

/-! ### Before the text is written -/

/-- The log goes to no file, or to another one than that which is to take the text. -/
def LogsElsewhere (inv : Invocation) (values : Fields) : Prop :=
  textUnder values "log_file" = "" ∨
    ¬ inv.files.SamePlace (Path.ofString (textUnder values "log_file")).collapsed (outPath values)

/-- Nothing is printed so far, and the file that is to take the text is as it was at the start, as long as the
    log goes elsewhere. -/
structure Silent (inv : Invocation) (values : Fields) (s : Session) : Prop where
  output : s.output = ""
  beside (elsewhere : LogsElsewhere inv values) : s.setup.Beside (outPath values) s.outlets.files
  spares (elsewhere : LogsElsewhere inv values) : Store.Spares (outPath values) inv.files s.outlets.files

theorem silent_start (inv : Invocation) (values : Fields) : Silent inv values inv.start where
  output := rfl
  beside _ path level mem := by cases List.mem_singleton.1 mem
  spares _ := .refl _ _

theorem silent_logged {s : Session} (silent : Silent inv values s) (rs : List Log.Record) :
    Silent inv values (logged inv.surroundings rs s) := by
  have noted (elsewhere : LogsElsewhere inv values) :
      Store.Spares (outPath values) s.outlets.files (logged inv.surroundings rs s).outlets.files :=
    Log.Setup.spares_deliverAll inv.surroundings (silent.beside elsewhere) rs
  exact {
    output := silent.output
    beside := fun elsewhere => (silent.beside elsewhere).of_sameDirectories (noted elsewhere).directories
    spares := fun elsewhere => (silent.spares elsewhere).trans (noted elsewhere) }

theorem Notes.preserves_silent {α : Type} {x : Running α} (notes : Notes inv x) :
    Preserves (Silent inv values) x := by
  intro s silent
  obtain ⟨rs, -, noted⟩ := notes s
  rw [noted]
  exact silent_logged silent rs

theorem preserves_silent_configureLog : Preserves (Silent inv values) (configureLog inv values) := by
  intro s silent
  have configured (elsewhere : LogsElsewhere inv values) :=
    Log.Setup.spares_configure inv.surroundings (wantedLevel values) (textUnder values "log_file")
      (isSet values "trace") (silent.beside elsewhere)
      (elsewhere.imp_right fun apart one => apart ((silent.spares elsewhere).directories.samePlace one))
  have kept : Silent inv values { s with
      setup := (Log.Setup.configure inv.surroundings (wantedLevel values) (textUnder values "log_file")
        (isSet values "trace") s.setup s.outlets).setup
      outlets := (Log.Setup.configure inv.surroundings (wantedLevel values) (textUnder values "log_file")
        (isSet values "trace") s.setup s.outlets).outlets } := {
    output := silent.output
    beside := fun elsewhere => (configured elsewhere).1
    spares := fun elsewhere => (silent.spares elsewhere).trans (configured elsewhere).2 }
  unfold configureLog
  rw [startedIn_get]
  dsimp only
  rw [startedIn_set]
  split <;> exact kept

theorem preserves_silent_upToText : Preserves (Silent inv values) (upToText inv values) :=
  preserves_silent_configureLog.bind fun _ => (notes_convert inv values).preserves_silent

/-! ### Writing the text -/

section Emit

variable (inv values) (text : Twice String)

/-- A text that is written to a file can be encoded and is found there, also once this is noted. -/
theorem find_of_emit {s : Session} (named : textUnder values "out" ≠ "")
    (wrote : ((emit inv values text).startedIn s).1 = .ok ()) :
    text.halves? = none ∧ (s.setup.Beside (outPath values) s.outlets.files →
      ∃ access, ((emit inv values text).startedIn s).2.outlets.files.find (outPath values) =
        .ok (some (.file (Charset.encodeUtf8 text.usual.toList) access))) := by
  have encodes := emit_startedIn inv values text s
  rw [wrote, written, if_pos named] at encodes
  cases targeted : s.outlets.files.target (outPath values) with
  | error r =>
      rw [targeted] at encodes
      cases encodes
  | ok parts =>
      have whole : text.halves? = none := by
        rw [targeted] at encodes
        unfold encoded at encodes
        cases halved : text.halves? with
        | none => rfl
        | some h =>
            rw [halved] at encodes
            cases encodes
      refine ⟨whole, fun beside => ?_⟩
      have put : s.outlets.files.write (outPath values) (Charset.encodeUtf8 text.usual.toList) =
          .ok (s.outlets.files.put parts (Charset.encodeUtf8 text.usual.toList)) := by
        rw [Store.write, targeted]
        rfl
      have apart := beside.of_sameDirectories (Store.sameDirectories_write put)
      obtain ⟨access, found⟩ := Store.find_write put
      refine ⟨access, ?_⟩
      have stays (rs : List Log.Record) := Log.Setup.spares_deliverAll (o := { s.outlets with
        files := s.outlets.files.put parts (Charset.encodeUtf8 text.usual.toList) }) inv.surroundings apart rs
      unfold emit emitFile
      dsimp only
      rw [if_pos named, whole]
      dsimp only
      rw [startedIn_bind, startedIn_fillFile]
      rw [outPath] at targeted
      rw [targeted]
      exact (stays _).find_eq.trans found

/-- Without a file for it, and without a frame, a text that is printed is followed by a line feed. -/
theorem output_of_emit {s : Session} (unnamed : textUnder values "out" = "")
    (plain : Panel.wanted (isSet values "rich") false inv.display = false)
    (wrote : ((emit inv values text).startedIn s).1 = .ok ()) :
    (text.map (· ++ "\n")).halves? = none ∧
      ((emit inv values text).startedIn s).2.output = s.output ++ (text.usual ++ "\n") := by
  unfold emit at wrote ⊢
  dsimp only at wrote ⊢
  rw [if_neg (not_not_intro unnamed), plain, if_neg Bool.false_ne_true, startedIn_print] at wrote ⊢
  unfold encoded at wrote
  cases halved : (text.map (· ++ "\n")).halves? with
  | none => exact ⟨rfl, rfl⟩
  | some h =>
      rw [halved] at wrote
      cases wrote

end Emit

/-! ### Runs -/

/-- A run that cannot convert its input reports the fault with code 1 and has then printed nothing; and the
    name of the file that was to take the text stands for what it stood for before, unless the log goes to
    that file. A run that comes to its end has converted the input. The file that is named for the text
    then holds the text and nothing else; without one, and without a frame, the text is printed with a
    line feed. Such a text has no halves of surrogate pairs. -/
theorem run_output (parsed : program.parse inv.environment inv.argv = .ok values) :
    (∀ g, inv.conversion values = .error (.fault g) →
      (run inv).ending = .finished 1 ∧ (run inv).output = "" ∧
        (LogsElsewhere inv values →
          (run inv).files.find (outPath values) = inv.files.find (outPath values))) ∧
    ((run inv).ending = .finished 0 → ∃ text, inv.conversion values = .ok text ∧
      (textUnder values "out" ≠ "" → text.halves? = none ∧ (LogsElsewhere inv values →
        ∃ access, (run inv).files.find (outPath values) =
          .ok (some (.file (Charset.encodeUtf8 text.usual.toList) access)))) ∧
      (textUnder values "out" = "" → Panel.wanted (isSet values "rich") false inv.display = false →
        (text.map (· ++ "\n")).halves? = none ∧ (run inv).output = text.usual ++ "\n")) := by
  have silent := preserves_silent_upToText inv.start (silent_start inv values)
  unfold Invocation.conversion
  rw [run_eq parsed, steps_eq, startedIn_bind]
  generalize (upToText inv values).startedIn inv.start = came at silent ⊢
  rcases came with ⟨f | text, s⟩
  · constructor
    · intro g stops
      cases stops
      have reported := silent_logged silent
        [Log.Source.commandLine.record .debug "Conversion failed" (some (.trace g))]
      exact ⟨rfl, reported.output, fun elsewhere => (reported.spares elsewhere).find_eq⟩
    · intro done
      cases f <;> cases done
  · constructor
    · intro g stops
      cases stops
    · intro done
      have found := find_of_emit inv values text (s := s)
      have printed := output_of_emit inv values text (s := s)
      dsimp only at done ⊢
      generalize (emit inv values text).startedIn s = came at done found printed ⊢
      rcases came with ⟨(f | f) | _, s'⟩
      · cases done
      · cases done
      · refine ⟨text, rfl, fun named => ?_, fun unnamed plain => ?_⟩
        · obtain ⟨whole, holds⟩ := found named rfl
          exact ⟨whole, fun elsewhere => holds (silent.beside elsewhere)⟩
        · obtain ⟨whole, prints⟩ := printed unnamed plain rfl
          rw [silent.output, String.empty_append] at prints
          exact ⟨whole, prints⟩

/-- A run that reads a tree from a file, writes the text over it and logs to another one. The file may be barred from
    being read. -/
def overwriting (tree : String) (access : Access) : Invocation where
  argv := ["t", "--from-json", "--out", "t", "--log-file", "l"]
  files := [(["t"], .file (Charset.encodeUtf8 tree.toList) access)]
  surroundings := ⟨"", "", fun _ => ""⟩
  elapsed := ""

/-- Barred from being read. -/
def unreadable : Access := { reading := some .denied }

/-- The tree of a text of one letter. -/
def letterTree : String :=
  "\x7b\"type\":\"root\",\"children\":[\x7b\"type\":\"text\",\"value\":\"a\"\x7d]\x7d"

/-- A tree that is none, or that cannot be read, is left in its file; one that can be read gives way to its text. -/
theorem run_output_overwriting :
    ((run (overwriting "[" {})).ending = .finished 1 ∧ (run (overwriting "[" {})).output = "" ∧
      (run (overwriting "[" {})).files.find (.ofString "t") = .ok (some (.file [91] {}))) ∧
    ((run (overwriting "a" unreadable)).ending = .finished 1 ∧ (run (overwriting "a" unreadable)).output = "" ∧
      (run (overwriting "a" unreadable)).files.find (.ofString "t") = .ok (some (.file [97] unreadable))) ∧
    ∃ access, (run (overwriting letterTree {})).files.find (.ofString "t") =
      .ok (some (.file [97] access)) := by
  have elsewhere {tree : String} {access : Access} {values : Fields} (log : textUnder values "log_file" = "l")
      (out : outPath values = .ofString "t") : LogsElsewhere (overwriting tree access) values := by
    right
    rw [log, out]
    rintro ⟨parts, first, second⟩
    cases first
    cases second
  obtain ⟨values, parsed, log, out, named, ⟨g, stops⟩, ⟨g', refused⟩, converts⟩ :
      ∃ values, program.parse [] ["t", "--from-json", "--out", "t", "--log-file", "l"] = .ok values ∧
        textUnder values "log_file" = "l" ∧ outPath values = .ofString "t" ∧ textUnder values "out" ≠ "" ∧
        (∃ g, (overwriting "[" {}).conversion values = .error (.fault g)) ∧
        (∃ g, (overwriting "a" unreadable).conversion values = .error (.fault g)) ∧
        (overwriting letterTree {}).conversion values = .ok (.same "a") := by
    refine ⟨_, rfl, ?_, ?_, ?_, ⟨_, rfl⟩, ⟨_, rfl⟩, ?_⟩
    all_goals decide +kernel
  refine ⟨?_, ?_, ?_⟩
  · obtain ⟨reported, silent, kept⟩ := (run_output parsed).1 g stops
    rw [out] at kept
    exact ⟨reported, silent, (kept (elsewhere log out)).trans (by decide +kernel)⟩
  · obtain ⟨reported, silent, kept⟩ := (run_output parsed).1 g' refused
    rw [out] at kept
    exact ⟨reported, silent, (kept (elsewhere log out)).trans (by decide +kernel)⟩
  · have ends : (run (overwriting letterTree {})).ending = .finished 0 := by decide +kernel
    obtain ⟨text, converts', holds, -⟩ := (run_output parsed).2 ends
    have held := (holds named).2 (elsewhere log out)
    cases converts.symm.trans converts'
    rw [out] at held
    exact held

end CommandLine

end Unmark
