import Mathlib.Data.List.Nodup
import Unmark.CommandLine.Run
import Unmark.Proofs.AttachedValue
import Unmark.Proofs.NamedValues
import Unmark.Proofs.TypedSeparators

/-
Module: Unmark.Proofs.EnvironmentDefaults
Layer: Proofs
Purpose: The environment variable of a setting against its flag. A value from the environment is converted as
  a default, and as such converted once more and not held against the choices; a value from the command line
  is converted once and held against them. A value that settles the setting either way makes the same run.
  For the others the two differ: a separator with an escape behind an escaped backslash, a threshold that is
  no choice, and two hyphens.
Main exports: Conversion.convert, Setting.Settles, Interface.parse_environment_eq_attach,
  run_environment_eq_attach, parse_separator_twice
-/

namespace Unmark.CommandLine

/-! ### Converting a value -/

/-- The text that a text becomes. An integer is no text. -/
def Conversion.convert (c : Conversion) (v : String) : String :=
  match c with
  | text | integer => v
  | capitals => Text.upperString v
  | separator => unescape v

theorem Conversion.apply_eq {c : Conversion} (textual : c ≠ .integer) (v : String) :
    c.apply v = .ok (.str (c.convert v)) := by
  cases c
  case integer => exact absurd rfl textual
  all_goals rfl

/-- A value means the same to a setting from wherever it comes: it is not two hyphens, it becomes one of the
    choices if there are any, and converting it once more changes nothing. -/
def Setting.Settles (s : Setting) (v : String) : Prop :=
  v ≠ "--" ∧ ∀ c choices, s.action = .value c choices →
    (choices = [] ∨ c.convert v ∈ choices) ∧ c.convert (c.convert v) = c.convert v

/-- A setting whose values are texts. -/
def Setting.Textual (s : Setting) : Prop := ∃ c choices, s.action = .value c choices ∧ c ≠ .integer

/-- Whether a setting takes an integer. -/
def Setting.takesInteger (s : Setting) : Bool :=
  match s.action with
  | .value .integer _ => true
  | _ => false

/-- No setting of the program takes an integer. -/
theorem textual_of_takesValue {s : Setting} (listed : s ∈ program.settings) (takes : s.takesValue = true) :
    s.Textual := by
  have checked : ∀ s ∈ program.settings, s.takesInteger = false := by decide +kernel
  have textual := checked s listed
  unfold Setting.takesValue at takes
  cases action : s.action with
  | value c choices =>
      refine ⟨c, choices, action, ?_⟩
      rintro rfl
      rw [Setting.takesInteger, action] at textual
      cases textual
  | switch b =>
      rw [action] at takes
      cases takes
  | announce text =>
      rw [action] at takes
      cases takes

/-- A separator settles its setting if no escape is left when those that were typed are replaced. -/
theorem settles_separator_iff {s : Setting} (action : s.action = .value .separator []) (v : String) :
    s.Settles v ↔ v ≠ "--" ∧ ¬ HasEscape (unescapeChars v.toList) := by
  have stable : unescape (unescape v) = unescape v ↔ ¬ HasEscape (unescapeChars v.toList) := by
    rw [← unescapeChars_eq_self_iff, unescape, unescape, String.toList_ofList, String.ofList_inj]
  unfold Setting.Settles
  rw [action, ← stable]
  constructor
  · rintro ⟨proper, each⟩
    exact ⟨proper, (each .separator [] rfl).2⟩
  · rintro ⟨proper, same⟩
    refine ⟨proper, ?_⟩
    rintro c choices ⟨⟩
    exact ⟨.inl rfl, same⟩

section Value

variable {s : Setting}

/-- What the command line makes of a value, exactly if the value settles the setting. -/
theorem valueOf_eq_iff {c : Conversion} {choices : List String} (action : s.action = .value c choices)
    (textual : c ≠ .integer) (v : String) :
    s.valueOf v = .ok (.str (c.convert (c.convert v))) ↔ s.Settles v := by
  have settles : s.Settles v ↔ v ≠ "--" ∧ (choices = [] ∨ c.convert v ∈ choices) ∧
      c.convert (c.convert v) = c.convert v := by
    unfold Setting.Settles
    rw [action]
    constructor
    · rintro ⟨proper, each⟩
      exact ⟨proper, each c choices rfl⟩
    · rintro ⟨proper, all⟩
      refine ⟨proper, ?_⟩
      rintro _ _ ⟨⟩
      exact all
  rw [settles]
  unfold Setting.valueOf
  by_cases divider : v = "--"
  · rw [if_pos divider]
    constructor
    · intro same
      cases same
    · rintro ⟨proper, -⟩
      exact absurd divider proper
  · rw [if_neg divider, action]
    dsimp only
    rw [Conversion.apply_eq textual]
    dsimp only
    have allowed : (choices.isEmpty || choices.contains (c.convert v)) = true ↔
        choices = [] ∨ c.convert v ∈ choices := by
      rw [Bool.or_eq_true, List.isEmpty_iff, List.contains_iff_mem]
    split
    · rename_i passes
      constructor
      · intro same
        have equal := Data.str.inj (Except.ok.inj same)
        exact ⟨divider, allowed.1 passes, equal.symm⟩
      · rintro ⟨-, -, equal⟩
        rw [equal]
    · rename_i fails
      constructor
      · intro same
        cases same
      · rintro ⟨-, passes, -⟩
        exact absurd (allowed.2 passes) fails

/-- What the environment makes of a value: it is converted twice. -/
theorem converted_fromEnvironment {c : Conversion} {choices : List String}
    (action : s.action = .value c choices) (textual : c ≠ .integer) (v : String) (env : Environment) :
    (s.fromEnvironment ((environmentKey s.key, v) :: env)).1.converted =
      .ok (.str (c.convert (c.convert v))) := by
  have given : (s.fromEnvironment ((environmentKey s.key, v) :: env)).1 =
      { s with default := .str (c.convert v) } := by
    unfold Setting.fromEnvironment
    dsimp only
    rw [List.lookup_cons, beq_self_eq_true, action]
    dsimp only
    rw [Conversion.apply_eq textual]
  rw [given]
  unfold Setting.converted
  dsimp only
  rw [action]
  dsimp only
  rw [Conversion.apply_eq textual]
  rfl

end Value

/-! ### Filling the gaps -/

/-- A value in front is found where nothing else is given. -/
theorem Given.value?_before (g : Given) (key : String) (d : Data) (other : String) :
    (g.before [(key, d)]).value? other = (g.value? other).or (if key = other then some d else none) := by
  rw [Given.value?, Given.before, List.singleton_append, List.reverse_cons, Fields.get?_append,
    Fields.get?_cons]
  rfl

/-- Settings that come to the same values one by one come to the same values together. -/
theorem completeAll_congr {f f' : Setting → Setting} (keeps : Keeps f) (keeps' : Keeps f') {g g' : Given}
    {ss : List Setting} (same : ∀ s ∈ ss, (f s).valueIn g = (f' s).valueIn g') :
    completeAll g (ss.map f) = completeAll g' (ss.map f') := by
  induction ss with
  | nil => rfl
  | cons s ss ih =>
      have rest := ih fun t mem => same t (List.mem_cons_of_mem s mem)
      have announces : (f s).announces = (f' s).announces := by
        unfold Setting.announces
        rw [keeps.action, keeps'.action]
      rw [List.map_cons, List.map_cons, completeAll_cons, completeAll_cons, announces, keeps.key, keeps'.key,
        same s List.mem_cons_self, rest]

/-- Each setting that announces nothing has its value among the values. -/
theorem get?_of_completeAll {g : Given} {ss : List Setting} (distinct : (ss.map Setting.key).Nodup)
    {values : Fields} (completed : completeAll g ss = .ok values) {s : Setting} (mem : s ∈ ss)
    (silent : s.announces = false) : ∃ d, s.valueIn g = .ok d ∧ values.get? s.key = some d := by
  induction ss generalizing values with
  | nil => cases mem
  | cons t ss ih =>
      rw [List.map_cons, List.nodup_cons] at distinct
      rw [completeAll_cons] at completed
      cases announces : t.announces with
      | true =>
          rw [announces, if_pos rfl] at completed
          rcases List.mem_cons.1 mem with rfl | mem
          · rw [silent] at announces
            cases announces
          · exact ih distinct.2 completed mem
      | false =>
          rw [announces, if_neg Bool.false_ne_true] at completed
          cases value : t.valueIn g with
          | error stop =>
              rw [value] at completed
              cases completed
          | ok d =>
              rw [value] at completed
              cases others : completeAll g ss with
              | error stop =>
                  rw [others] at completed
                  cases completed
              | ok more =>
                  rw [others] at completed
                  cases completed
                  rcases List.mem_cons.1 mem with rfl | mem
                  · exact ⟨d, value, by rw [Fields.get?_cons, if_pos rfl]⟩
                  · obtain ⟨d', value', found⟩ := ih distinct.2 others mem
                    have other : t.key ≠ s.key := by
                      intro same
                      exact distinct.1 (same ▸ List.mem_map_of_mem mem)
                    refine ⟨d', value', ?_⟩
                    rw [Fields.get?_cons, if_neg other, found]

/-- A setting that takes no integer always comes to a value. -/
theorem exists_valueIn (g : Given) {s : Setting} (textual : s.takesValue = true → s.Textual) :
    ∃ d, s.valueIn g = .ok d := by
  unfold Setting.valueIn
  cases g.value? s.key with
  | some d => exact ⟨d, rfl⟩
  | none =>
      unfold Setting.converted
      dsimp only
      split
      · rename_i c choices text action usual
        have takes : s.takesValue = true := by
          unfold Setting.takesValue
          rw [action]
        obtain ⟨c', choices', action', known⟩ := textual takes
        rw [action] at action'
        cases action'
        rw [Conversion.apply_eq known]
        exact ⟨_, rfl⟩
      · exact ⟨_, rfl⟩

/-- Settings that take no integers always come to values. -/
theorem exists_completeAll (g : Given) {ss : List Setting}
    (textual : ∀ s ∈ ss, s.takesValue = true → s.Textual) : ∃ values, completeAll g ss = .ok values := by
  induction ss with
  | nil => exact ⟨[], rfl⟩
  | cons s ss ih =>
      obtain ⟨rest, filled⟩ := ih fun t mem => textual t (List.mem_cons_of_mem s mem)
      obtain ⟨d, value⟩ := exists_valueIn g (textual s List.mem_cons_self)
      rw [completeAll_cons, value, filled]
      cases s.announces
      · exact ⟨(s.key, d) :: rest, rfl⟩
      · exact ⟨rest, rfl⟩

/-- In every environment the settings of the program come to values. -/
theorem exists_completeAll_program (env : Environment) (g : Given) :
    ∃ values, completeAll g (program.withEnvironment env).settings = .ok values := by
  refine exists_completeAll g ?_
  intro s mem takes
  obtain ⟨t, listed, rfl⟩ := List.mem_map.1 mem
  have keeps := Interface.keeps_fromEnvironment env
  rw [keeps.takesValue] at takes
  obtain ⟨c, choices, action, known⟩ := textual_of_takesValue listed takes
  refine ⟨c, choices, ?_, known⟩
  rw [keeps.action, action]

/-! ### The variable and the flag -/

namespace Interface

section

variable {i : Interface} (distinct : i.Distinct) {s : Setting} (listed : s ∈ i.settings)

include distinct

theorem nodup_keys : (i.settings.map Setting.key).Nodup := by
  refine List.Nodup.of_map environmentKey ?_
  rw [List.map_map]
  exact distinct.variableNames

include listed

/-- A setting is known by its variable. -/
theorem eq_of_environmentKey_eq {t : Setting} (listed' : t ∈ i.settings)
    (same : environmentKey t.key = environmentKey s.key) : t = s :=
  List.inj_on_of_nodup_map distinct.variableNames listed' listed same

/-- With the variable of one setting, a value in front of what is given stands for the value of the
    variable. -/
theorem complete_environment_eq {c : Conversion} {choices : List String}
    (action : s.action = .value c choices) (textual : c ≠ .integer) (v : String) (env : Environment)
    (g : Given) :
    (i.withEnvironment ((environmentKey s.key, v) :: env)).complete g =
      (i.withEnvironment env).complete (g.before [(s.key, .str (c.convert (c.convert v)))]) := by
  have values : ∀ t ∈ i.settings,
      (t.fromEnvironment ((environmentKey s.key, v) :: env)).1.valueIn g =
        (t.fromEnvironment env).1.valueIn (g.before [(s.key, .str (c.convert (c.convert v)))]) := by
    intro t listed'
    unfold Setting.valueIn
    rw [(keeps_fromEnvironment _).key, (keeps_fromEnvironment env).key, Given.value?_before]
    by_cases same : environmentKey t.key = environmentKey s.key
    · obtain rfl := eq_of_environmentKey_eq distinct listed listed' same
      rw [if_pos rfl, converted_fromEnvironment action textual]
      cases g.value? t.key <;> rfl
    · have other : s.key ≠ t.key := by
        intro equal
        exact same (congrArg environmentKey equal.symm)
      have unchanged : t.fromEnvironment ((environmentKey s.key, v) :: env) = t.fromEnvironment env := by
        unfold Setting.fromEnvironment
        dsimp only
        rw [List.lookup_cons, beq_eq_false_iff_ne.2 same]
      rw [if_neg other, Option.or_none, unchanged]
  have operand : ∀ e ∈ i.operand,
      (g.before [(s.key, .str (c.convert (c.convert v)))]).value? e.1 = g.value? e.1 := by
    intro e mem
    have other := distinct.operand e mem s.key (List.mem_map_of_mem listed)
    rw [Given.value?_before, if_neg (Ne.symm other), Option.or_none]
  have all := completeAll_congr (keeps_fromEnvironment ((environmentKey s.key, v) :: env))
    (keeps_fromEnvironment env) values
  unfold complete withEnvironment
  dsimp only
  rw [all]
  cases given : i.operand with
  | none => rfl
  | some e =>
      obtain ⟨key, usual⟩ := e
      dsimp only
      rw [operand (key, usual) given]
      rfl

/-- A setting that announces nothing has its value among all values. -/
theorem get?_of_complete (silent : s.announces = false) {env : Environment} {g : Given} {values : Fields}
    (completed : (i.withEnvironment env).complete g = .ok values) :
    ∃ d, (s.fromEnvironment env).1.valueIn g = .ok d ∧ values.get? s.key = some d := by
  have keeps := keeps_fromEnvironment env
  have keys : ((i.withEnvironment env).settings.map Setting.key).Nodup := by
    have same : (i.withEnvironment env).settings.map Setting.key = i.settings.map Setting.key := by
      rw [withEnvironment, List.map_map]
      exact List.map_congr_left fun t _ => keeps.key t
    rw [same]
    exact nodup_keys distinct
  have mem : (s.fromEnvironment env).1 ∈ (i.withEnvironment env).settings :=
    List.mem_map.2 ⟨s, listed, rfl⟩
  have silent' : (s.fromEnvironment env).1.announces = false := by
    unfold Setting.announces at silent ⊢
    rw [keeps.action]
    exact silent
  unfold complete at completed
  dsimp only at completed
  cases filled : completeAll g (i.withEnvironment env).settings with
  | error stop =>
      rw [filled] at completed
      cases completed
  | ok filling =>
      rw [filled] at completed
      obtain ⟨d, value, there⟩ := get?_of_completeAll keys filled mem silent'
      rw [keeps.key] at there
      refine ⟨d, value, ?_⟩
      simp only [bind, Except.bind] at completed
      split at completed
      · cases completed
        -- The operand comes first, under a key of its own.
        rw [Fields.get?_append, there]
        split
        · rename_i key usual given
          have other := distinct.operand (key, usual) given s.key (List.mem_map_of_mem listed)
          rw [Fields.get?_cons, if_neg other]
          rfl
        · rfl
      · cases completed

variable {flag : String} (known : flag ∈ s.flags) {c : Conversion} {choices : List String}
  (action : s.action = .value c choices) (textual : c ≠ .integer) {v : String}

include known action textual

/-- The variable of a setting comes to the same as its flag for a value that settles the setting. -/
theorem parse_environment_eq_attach (settles : s.Settles v) (env : Environment) (argv : List String) :
    i.parse ((environmentKey s.key, v) :: env) argv = i.parse env (attach flag v :: argv) := by
  have takes : s.takesValue = true := by
    unfold Setting.takesValue
    rw [action]
  have valued := (valueOf_eq_iff action textual v).2 settles
  rw [parse_eq, parse_eq, read_attached distinct listed known v takes valued]
  cases i.read argv with
  | error stop => rfl
  | ok g => exact complete_environment_eq distinct listed action textual v env g

/-- The flag comes to the values that the variable comes to only if the value settles the setting, unless
    the command line gives the setting another value. -/
theorem settles_of_parse_attach {env : Environment} {argv : List String} {values : Fields}
    (by_variable : i.parse ((environmentKey s.key, v) :: env) argv = .ok values)
    (absent : ∀ g, i.read argv = .ok g → g.value? s.key = none)
    (by_flag : i.parse env (attach flag v :: argv) = .ok values) : s.Settles v := by
  have takes : s.takesValue = true := by
    unfold Setting.takesValue
    rw [action]
  have silent : s.announces = false := by
    unfold Setting.announces
    rw [action]
  rw [parse_eq] at by_variable by_flag
  cases reads : i.read argv with
  | error stop =>
      rw [reads] at by_variable
      cases by_variable
  | ok g =>
      rw [reads] at by_variable
      cases valued : s.valueOf v with
      | error stop =>
          rw [read_attached_refused distinct listed known v takes valued reads] at by_flag
          cases by_flag
      | ok d =>
          rw [read_attached distinct listed known v takes valued, reads] at by_flag
          obtain ⟨d₁, value₁, found₁⟩ := get?_of_complete distinct listed silent by_variable
          obtain ⟨d₂, value₂, found₂⟩ := get?_of_complete distinct listed silent by_flag
          rw [found₁] at found₂
          cases found₂
          unfold Setting.valueIn at value₁ value₂
          rw [(keeps_fromEnvironment _).key, absent g reads, converted_fromEnvironment action textual]
            at value₁
          rw [(keeps_fromEnvironment env).key, Given.value?_before, absent g reads, if_pos rfl] at value₂
          rw [← valueOf_eq_iff action textual, valued]
          cases value₁
          cases value₂
          rfl

end

end Interface

/-! ### Runs -/

/-- A run depends on its command line and its environment through the values that they come to. -/
theorem run_eq_of_parse_eq (inv : Invocation) {environment environment' : Environment}
    {argv argv' : List String} (same : program.parse environment argv = program.parse environment' argv') :
    run { inv with environment, argv } = run { inv with environment := environment', argv := argv' } := by
  unfold run
  dsimp only
  rw [same]
  cases program.parse environment' argv' with
  | error stop => rfl
  | ok values =>
      simp only [steps, configureLog, convert, inputBytes, readTree, renderTree, emit, emitFile, note,
        stageRecord, report]

/-- The variable of a setting against its flag with a value attached, in front of the same command line: for
    a value that settles the setting the runs are the same. If the command line gives the setting no other
    value and comes to values with the variable, it comes to the same ones with the flag for these values
    alone. -/
theorem run_environment_eq_attach {s : Setting} (listed : s ∈ program.settings)
    (takes : s.takesValue = true) {flag : String} (known : flag ∈ s.flags) (v : String) (inv : Invocation) :
    (s.Settles v → run { inv with environment := (environmentKey s.key, v) :: inv.environment } =
      run { inv with argv := Interface.attach flag v :: inv.argv }) ∧
    ∀ values, program.parse ((environmentKey s.key, v) :: inv.environment) inv.argv = .ok values →
      (∀ g, program.read inv.argv = .ok g → g.value? s.key = none) →
      (program.parse inv.environment (Interface.attach flag v :: inv.argv) = .ok values ↔ s.Settles v) := by
  obtain ⟨c, choices, action, textual⟩ := textual_of_takesValue listed takes
  have same : s.Settles v → program.parse ((environmentKey s.key, v) :: inv.environment) inv.argv =
      program.parse inv.environment (Interface.attach flag v :: inv.argv) := fun settles =>
    Interface.parse_environment_eq_attach distinct_program listed known action textual settles _ _
  constructor
  · intro settles
    exact run_eq_of_parse_eq inv (same settles)
  · intro values by_variable absent
    constructor
    · intro by_flag
      exact Interface.settles_of_parse_attach distinct_program listed known action textual by_variable absent
        by_flag
    · intro settles
      exact (same settles).symm.trans by_variable

/-- The setting of the separator between blocks. -/
def separatorSetting : Setting :=
  { flags := ["--block-separator"], key := "block_separator", action := .value .separator []
    default := .str (default : PlainText.Options).blockSeparator }

theorem separatorSetting_mem : separatorSetting ∈ program.settings := by
  simp [program, renderSettings, separatorSetting]

/-- A bar as the separator: its variable makes the run that its flag makes, and the flag comes to the values
    that the variable comes to. -/
theorem run_bar_separator :
    let inv : Invocation := { argv := ["-"], input := [97], surroundings := ⟨"", "", fun _ => ""⟩, elapsed := "" }
    separatorSetting ∈ program.settings ∧ separatorSetting.Settles "|" ∧
    run { inv with environment := [("MDPLAIN_BLOCK_SEPARATOR", "|")] } =
      run { inv with argv := ["--block-separator=|", "-"] } ∧
    ∃ values, program.parse [("MDPLAIN_BLOCK_SEPARATOR", "|")] ["-"] = .ok values ∧
      program.parse [] ["--block-separator=|", "-"] = .ok values := by
  intro inv
  have name : environmentKey separatorSetting.key = "MDPLAIN_BLOCK_SEPARATOR" := by decide +kernel
  have settles : separatorSetting.Settles "|" := by
    rw [settles_separator_iff rfl, ← unescapeChars_eq_self_iff]
    decide
  have both := run_environment_eq_attach separatorSetting_mem rfl (List.mem_singleton_self _) "|" inv
  rw [name] at both
  obtain ⟨values, parsed⟩ : ∃ values, program.parse [("MDPLAIN_BLOCK_SEPARATOR", "|")] ["-"] = .ok values :=
    ⟨_, rfl⟩
  refine ⟨separatorSetting_mem, settles, both.1 settles, values, parsed, ?_⟩
  refine (both.2 values parsed ?_).2 settles
  intro g read
  cases read
  rfl

/-- Two backslashes and a letter: the variable makes a line feed of them, the flag a backslash and the
    letter. -/
theorem parse_separator_twice :
    ∃ values values', program.parse [("MDPLAIN_BLOCK_SEPARATOR", "\\\\n")] ["-"] = .ok values ∧
      program.parse [] ["--block-separator=\\\\n", "-"] = .ok values' ∧
      textUnder values "block_separator" = "\n" ∧ textUnder values' "block_separator" = "\\n" := by
  refine ⟨_, _, rfl, rfl, ?_, ?_⟩
  · decide +kernel
  · decide +kernel

end Unmark.CommandLine
