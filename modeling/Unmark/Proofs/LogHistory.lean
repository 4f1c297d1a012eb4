import Mathlib.Data.List.Basic
import Unmark.Log.History
import Unmark.Proofs.StoreWrites

/-
Module: Unmark.Proofs.LogHistory
Layer: Proofs
Purpose: The handlers of a log after any history. What happens to a log keeps two accounts in order: the
  handlers of others are there as they themselves have left them (`others_history`), and every handler
  that was ever installed is closed or still there, in the order of installation
  (`closed_own_history`). Configuring the log settles the second account: what was installed before is
  closed, and what is there of its own is what this call has installed.
Main exports: run_configuring, others_history, closed_own_history, handlers_after_configuring
-/

namespace Unmark.Log

/-! ### The steps of configuring -/

/-- A list from which the elements of a class are taken one by one holds all others. -/
theorem diff_filter_self {α : Type} [BEq α] [LawfulBEq α] (p : α → Bool) (list : List α) :
    list.diff (list.filter p) = list.filter fun a => !p a := by
  induction list with
  | nil => rfl
  | cons a list ih =>
      cases inside : p a with
      | true =>
          rw [List.filter_cons_of_pos inside, List.filter_cons_of_neg (by simp [inside]), List.diff_cons,
            List.erase_cons_head, ih]
      | false =>
          have absent : a ∉ list.filter p := by simp [inside]
          rw [List.filter_cons_of_neg (by simp [inside]), List.filter_cons_of_pos (by simp [inside]),
            List.cons_diff_of_not_mem absent, ih]

/-- A step that goes on where another one has ended. -/
theorem run_bind_of_ok {α β : Type} {x : Stepping α} {k : α → Stepping β} {a : α} {s s' : State}
    (came : x.run.run s = (.ok a, s')) : (x >>= k).run.run s = (k a).run.run s' := by
  rw [ExceptT.run_bind, StateT.run_bind, came]
  rfl

theorem run_rearrange (change : Setup → Setup) (s : State) :
    (rearrange change).run.run s = (.ok (), { s with setup := change s.setup }) := rfl

theorem run_get (s : State) : (get : Stepping State).run.run s = (.ok s, s) := rfl

/-- The state that configuring leaves. -/
def Setup.Configured.state (c : Setup.Configured) : State := { setup := c.setup, outlets := c.outlets }

theorem run_openLog (around : Surroundings) (file : String) (s : State) :
    (openLog around file).run.run s =
      ((s.setup.openFile around s.outlets file).result, (s.setup.openFile around s.outlets file).state) := by
  unfold openLog
  rw [run_bind_of_ok (run_get s)]
  dsimp only
  generalize s.setup.openFile around s.outlets file = opened
  obtain ⟨result, setup, outlets⟩ := opened
  cases result <;> rfl

/-- Handlers that are retired one after the other. -/
theorem run_forM_retire (hs : List Handler) (s : State) :
    (hs.forM retire).run.run s =
      (.ok (), { s with
        setup := { s.setup with
          handlers := s.setup.handlers.diff hs
          closed := s.setup.closed ++ hs } }) := by
  induction hs generalizing s with
  | nil =>
      rw [List.append_nil, List.diff_nil]
      rfl
  | cons h hs ih =>
      change (retire h >>= fun _ => hs.forM retire).run.run s = _
      rw [retire, run_bind_of_ok (run_rearrange _ s), ih, List.diff_cons, List.append_assoc]
      rfl

/-- The steps come to what configuring comes to, also when they fail. -/
theorem run_configuring (around : Surroundings) (wanted : Wanted) (file : String) (traced : Bool) (s : State) :
    (configuring around wanted file traced).run.run s =
      ((s.setup.configure around wanted file traced s.outlets).result,
        (s.setup.configure around wanted file traced s.outlets).state) := by
  unfold configuring Setup.configure
  cases wanted.resolve traced with
  | error u => rfl
  | ok level =>
      dsimp only
      rw [run_bind_of_ok (run_rearrange _ s), run_bind_of_ok (run_get _),
        run_bind_of_ok (run_forM_retire _ _), install, run_bind_of_ok (run_rearrange _ _), Setup.own,
        diff_filter_self]
      by_cases unnamed : file = ""
      · rw [if_pos unnamed, if_pos unnamed]
        rfl
      · rw [if_neg unnamed, if_neg unnamed, run_openLog]
        rfl

/-! ### Handlers of others, and own ones -/

theorem mem_others {s : Setup} {id : Nat} : id ∈ s.others ↔ .foreign id ∈ s.handlers := by
  unfold Setup.others
  rw [List.mem_filterMap]
  constructor
  · rintro ⟨h, mem, found⟩
    cases h <;> cases found
    exact mem
  · intro mem
    exact ⟨.foreign id, mem, rfl⟩

/-- The handlers that are not own ones are those of others. -/
theorem filter_not_isOwn (s : Setup) : s.handlers.filter (fun h => !h.isOwn) = s.others.map .foreign := by
  unfold Setup.others
  induction s.handlers with
  | nil => rfl
  | cons h handlers ih =>
      cases h with
      | foreign id => exact congrArg (Handler.foreign id :: ·) ih
      | console traced level => exact ih
      | file path level => exact ih

/-- Taking away a handler of somebody else takes its number from those of others. -/
theorem others_release (s : Setup) (id : Nat) : (s.release id).others = s.others.erase id := by
  unfold Setup.release Setup.others
  dsimp only
  induction s.handlers with
  | nil => rfl
  | cons h handlers ih =>
      cases h with
      | foreign other =>
          have number : (Handler.foreign other).foreign? = some other := rfl
          rw [List.erase_cons, List.filterMap_cons_some number, List.erase_cons]
          by_cases same : other = id
          · simp [same]
          · simp [same, ← ih, List.filterMap_cons_some number]
      | console traced level => exact ih
      | file path level => exact ih

/-- It leaves the own handlers where they are. -/
theorem own_release (s : Setup) (id : Nat) : (s.release id).own = s.own := by
  unfold Setup.release Setup.own
  dsimp only
  induction s.handlers with
  | nil => rfl
  | cons h handlers ih =>
      cases h with
      | foreign other =>
          rw [List.erase_cons, List.filter_cons_of_neg Bool.false_ne_true]
          by_cases same : other = id
          · simp [same]
          · simp [same, ih, Handler.isOwn]
      | console traced level => exact congrArg (Handler.console traced level :: ·) ih
      | file path level => exact congrArg (Handler.file path level :: ·) ih

section Handlers

variable (files : Files.Store) (file : String) (traced : Bool) (level : Int)

theorem filter_isOwn_handlersFor :
    (handlersFor files file traced level).filter Handler.isOwn = handlersFor files file traced level := by
  unfold handlersFor
  split <;> rfl

theorem others_handlersFor : (handlersFor files file traced level).filterMap Handler.foreign? = [] := by
  unfold handlersFor
  split <;> rfl

end Handlers

/-! ### What one call leaves -/

section Call

variable (around : Surroundings) (wanted : Wanted) (file : String) (traced : Bool)

/-- What a call with a known threshold comes to: it fails if the log file is named as no file can be. -/
def named (file : String) : Except Misconfigured Unit :=
  if isUnnameable file then .error (.fileName Files.Reason.badName.text) else .ok ()

/-- A log file that can be opened has a name that a file can have. -/
theorem not_isUnnameable_of_append {files files' : Files.Store}
    (opened : files.append (logPath file) [] = .ok files') : isUnnameable file = false := by
  unfold isUnnameable
  cases bad : (logPath file).isUnnameable with
  | false => exact Bool.and_false _
  | true =>
      rw [Files.Store.append, Files.Store.target_of_unnameable bad] at opened
      cases opened

/-- A log file that cannot be opened is refused for its name exactly if no file can have that name. -/
theorem badName_iff_of_append {files : Files.Store} {r : Files.Refusal} (filled : file ≠ "")
    (refused : files.append (logPath file) [] = .error r) : r.reason = .badName ↔ isUnnameable file = true := by
  have targeted : files.target (logPath file) = .error r := by
    unfold Files.Store.append at refused
    cases targeted : files.target (logPath file) with
    | error r' =>
        rw [targeted] at refused
        cases refused
        rfl
    | ok parts =>
        rw [targeted] at refused
        cases refused
  rw [Files.Store.badName_iff_of_target targeted]
  simp [isUnnameable, filled]

variable {wanted traced} in
/-- A log configured with a known threshold: behind the handlers of others stand those of this call, and
    all that were installed before are closed. -/
theorem configure_of_known {level : Int} (known : wanted.resolve traced = .ok level) (s : Setup) (o : Outlets) :
    ∃ outlets, s.configure around wanted file traced o = {
      result := named file
      setup := {
        level
        handlers := s.others.map .foreign ++ handlersFor o.files file traced level
        closed := s.closed ++ s.own }
      outlets } := by
  have renewed : s.renewed level traced =
      { level, handlers := s.others.map .foreign ++ [.console traced level], closed := s.closed ++ s.own } := by
    rw [Setup.renewed, filter_not_isOwn]
    rfl
  unfold Setup.configure
  rw [known]
  dsimp only
  rw [renewed]
  by_cases unnamed : file = ""
  · have fails : opens o.files file = false := by simp [opens, unnamed]
    have nameable : isUnnameable file = false := by simp [isUnnameable, unnamed]
    rw [if_pos unnamed, handlersFor, fails, named, nameable]
    exact ⟨o, rfl⟩
  · rw [if_neg unnamed]
    unfold Setup.openFile
    dsimp only
    split
    · rename_i files opened
      have works : opens o.files file = true := by
        simp [opens, unnamed, logPath, opened, Except.isOk, Except.toBool]
      rw [handlersFor, works, List.append_assoc, named, not_isUnnameable_of_append file opened]
      exact ⟨_, rfl⟩
    · rename_i r refused
      have fails : opens o.files file = false := by
        simp [opens, logPath, refused, Except.isOk, Except.toBool]
      have whose := badName_iff_of_append file unnamed refused
      rw [handlersFor, fails, named]
      split
      · rename_i bad
        rw [if_pos (whose.1 bad), bad]
        exact ⟨o, rfl⟩
      · rename_i other
        rw [if_neg (mt whose.2 other)]
        exact ⟨_, rfl⟩

/-- A call leaves everything as it was if the threshold is not known; else it leaves its own handlers behind
    those of others, and closes all that were installed before. -/
theorem run_configuring_eq (s : State) :
    match wanted.resolve traced with
    | .error u => (configuring around wanted file traced).run.run s = (.error (.level u), s)
    | .ok level => ∃ outlets, (configuring around wanted file traced).run.run s =
        (named file, {
          setup := {
            level
            handlers := s.setup.others.map .foreign ++ handlersFor s.outlets.files file traced level
            closed := s.setup.closed ++ s.setup.own }
          outlets }) := by
  rw [run_configuring]
  cases known : wanted.resolve traced with
  | error u =>
      rw [Setup.configure, known]
      rfl
  | ok level =>
      obtain ⟨outlets, configured⟩ := configure_of_known around file known s.setup s.outlets
      rw [configured]
      exact ⟨outlets, rfl⟩

end Call

/-! ### Histories -/

/-- What happens changes the handlers of others as they themselves do. -/
theorem others_after (s : State) (a : Act) : (s.after a).setup.others = a.others s.setup.others := by
  cases a with
  | configure around wanted file traced =>
      have came := run_configuring_eq around wanted file traced s
      change ((configuring around wanted file traced).run.run s).2.setup.others = s.setup.others
      cases known : wanted.resolve traced with
      | error u =>
          rw [known] at came
          rw [came]
      | ok level =>
          rw [known] at came
          obtain ⟨outlets, came⟩ := came
          rw [came, Setup.others, List.filterMap_append, others_handlersFor, List.append_nil,
            List.filterMap_map]
          exact List.filterMap_some
  | adopt id =>
      change (s.setup.adopt id).others = if id ∈ s.setup.others then _ else _
      rw [Setup.adopt]
      by_cases present : .foreign id ∈ s.setup.handlers
      · rw [if_pos present, if_pos (mem_others.2 present)]
      · rw [if_neg present, if_neg (mt mem_others.1 present), Setup.others, List.filterMap_append]
        rfl
  | release id => exact others_release s.setup id
  | deliver around r => rfl
  | outside o => rfl

/-- What happens neither loses an own handler nor closes one twice: each that is installed joins those that
    are closed or there. -/
theorem closed_own_after (s : State) (a : Act) :
    (s.after a).setup.closed ++ (s.after a).setup.own =
      s.setup.closed ++ s.setup.own ++ a.installed s := by
  cases a with
  | configure around wanted file traced =>
      have came := run_configuring_eq around wanted file traced s
      unfold State.after Act.installed
      dsimp only
      cases known : wanted.resolve traced with
      | error u =>
          rw [known] at came
          rw [came, List.append_nil]
      | ok level =>
          rw [known] at came
          obtain ⟨outlets, came⟩ := came
          have none_foreign : (s.setup.others.map Handler.foreign).filter Handler.isOwn = [] := by
            rw [List.filter_eq_nil_iff]
            rintro h mem
            obtain ⟨id, -, rfl⟩ := List.mem_map.1 mem
            exact Bool.false_ne_true
          have own : Setup.own ⟨level,
              s.setup.others.map .foreign ++ handlersFor s.outlets.files file traced level,
              s.setup.closed ++ s.setup.own⟩ = handlersFor s.outlets.files file traced level := by
            rw [Setup.own, List.filter_append, filter_isOwn_handlersFor, none_foreign, List.nil_append]
          rw [came]
          dsimp only
          rw [own]
  | adopt id =>
      change (s.setup.adopt id).closed ++ (s.setup.adopt id).own = s.setup.closed ++ s.setup.own ++ []
      rw [Setup.adopt, List.append_nil]
      by_cases present : .foreign id ∈ s.setup.handlers
      · rw [if_pos present]
      · rw [if_neg present, Setup.own, List.filter_append]
        exact congrArg (s.setup.closed ++ ·) (List.append_nil _)
  | release id =>
      change s.setup.closed ++ (s.setup.release id).own = s.setup.closed ++ s.setup.own ++ []
      rw [own_release, List.append_nil]
  | deliver around r => exact (List.append_nil _).symm
  | outside o => exact (List.append_nil _).symm

/-- After any history the handlers of others are there as they have left them. -/
theorem others_history (s : State) (acts : List Act) :
    (s.history acts).setup.others = acts.foldl Act.others s.setup.others := by
  unfold State.history
  induction acts generalizing s with
  | nil => rfl
  | cons a acts ih => rw [List.foldl_cons, List.foldl_cons, ih, others_after]

/-- After any history the handlers that were ever installed are those that are closed and those that are
    still there, in the order of installation. -/
theorem closed_own_history (s : State) (acts : List Act) :
    (s.history acts).setup.closed ++ (s.history acts).setup.own =
      s.setup.closed ++ s.setup.own ++ s.installed acts := by
  unfold State.history
  induction acts generalizing s with
  | nil => exact (List.append_nil _).symm
  | cons a acts ih =>
      rw [List.foldl_cons, ih, closed_own_after, State.installed, List.append_assoc]

/-- Configuring a log after any history. If the threshold is not known, the call fails and everything stays
    as it was. Else the log has the threshold of the call and so have its own handlers: behind the handlers of
    others, in the order in which they have come, stand one for the console and, exactly if a log file is named
    and can be opened, one for this file. Every handler that was installed before is closed, once and in the
    order of installation. Such a call fails only if the log file is named as no file can be, and then all this
    has been done. -/
theorem handlers_after_configuring (s : State) (acts : List Act) (around : Surroundings) (wanted : Wanted)
    (file : String) (traced : Bool) :
    let before := s.history acts
    let call := (configuring around wanted file traced).run.run before
    let configured := before.setup.configure around wanted file traced before.outlets
    call = (configured.result, { setup := configured.setup, outlets := configured.outlets }) ∧
    match wanted.resolve traced with
    | .error u => call = (.error (.level u), before)
    | .ok level =>
      call.1 = (if isUnnameable file then .error (.fileName Files.Reason.badName.text) else .ok ()) ∧
      call.2.setup.level = level ∧
      call.2.setup.handlers =
        (acts.foldl Act.others s.setup.others).map .foreign ++
          .console traced level ::
            (if opens before.outlets.files file then [.file (logPath file) level] else []) ∧
      call.2.setup.closed = s.setup.closed ++ s.setup.own ++ s.installed acts := by
  intro before call configured
  refine ⟨run_configuring around wanted file traced before, ?_⟩
  have came := run_configuring_eq around wanted file traced before
  cases known : wanted.resolve traced with
  | error u =>
      rw [known] at came
      exact came
  | ok level =>
      rw [known] at came
      obtain ⟨outlets, came⟩ := came
      change call = _ at came
      dsimp only
      rw [came, ← others_history, ← closed_own_history]
      exact ⟨rfl, rfl, rfl, rfl⟩

end Unmark.Log
