import Unmark.Proofs.EnvironmentDefaults
import Unmark.Proofs.NodeContract

/-
Module: Unmark.Proofs.ExplicitArguments
Layer: Proofs
Purpose: What the environment variable of a setting can change. A setting that occurs on a command line has a
  value among what the command line gives, whether its flag is spelled in full, shortened or put together
  with others (`Interface.exists_value?_of_occurs`). Such a value leaves no gap for the default, and so none for the
  variable; where there is a gap, the variable fills this one only.
Main exports: Word.concerned, Interface.Occurs, Interface.exists_value?_of_occurs, ComeToSameBut,
  parse_of_one_variable
-/

namespace Unmark.CommandLine

open Load (bind_eq_ok_iff)

/-! ### Settings that occur -/

/-- The settings that a word concerns: that of its flag, and with short flags in one word those of all of
    them. -/
def Word.concerned (i : Interface) : Word → List Setting
  | .flag _ o =>
    match o.setting with
    | none => []
    | some s =>
      match i.expand s o with
      | .error _ => []
      | .ok (before, last, _) => before ++ [last]
  | _ => []

namespace Interface

/-- A setting occurs on a command line: a word in front of the divider concerns it. -/
def Occurs (i : Interface) (s : Setting) (argv : List String) : Prop :=
  ∃ w ∈ argv.takeWhile (· ≠ "--"), ∃ word, i.classify w = .ok word ∧ s ∈ word.concerned i

/-- A word in front of the divider concerns a setting. -/
def OccursIn (i : Interface) (s : Setting) : List Word → Prop
  | [] | .divider :: _ => False
  | w :: rest => s ∈ w.concerned i ∨ i.OccursIn s rest

variable {i : Interface} {s : Setting}

section Spellings

variable (distinct : i.Distinct) (listed : s ∈ i.settings) {flag : String} (known : flag ∈ s.flags)
  {argv : List String}

include distinct listed known

/-- A setting occurs where one of its flags stands. -/
theorem occurs_of_flag (mem : flag ∈ argv.takeWhile (· ≠ "--")) : i.Occurs s argv :=
  ⟨flag, mem, _, classify_flag distinct listed known, List.mem_singleton_self s⟩

/-- A setting that takes a value occurs where one of its flags stands with a value attached. -/
theorem occurs_of_attach (takes : s.takesValue = true) {v : String}
    (mem : attach flag v ∈ argv.takeWhile (· ≠ "--")) : i.Occurs s argv := by
  refine ⟨_, mem, _, classify_attach distinct listed known v, ?_⟩
  rw [Word.concerned]
  dsimp only
  rw [expand_attached v takes]
  exact List.mem_singleton_self s

end Spellings

/-- What stands in front of the divider is no divider. -/
theorem classify_ne_divider (w : String) : i.classify w ≠ .ok .divider := by
  intro same
  unfold classify classifyRest at same
  dsimp only at same
  split at same
  · split at same
    · cases same
    · split at same
      · cases same
      · split at same
        · cases same
        · split at same
          · cases same
          · split at same
            · cases same
            · split at same <;> cases same
          · cases same
  · cases same

/-- A setting that occurs on a command line is concerned by a classified word. -/
theorem occursIn_of_occurs {argv : List String} {words : List Word} (classified : i.classifyAll argv = .ok words)
    (occurs : i.Occurs s argv) : i.OccursIn s words := by
  induction argv generalizing words with
  | nil =>
      obtain ⟨w, mem, -⟩ := occurs
      cases mem
  | cons w argv ih =>
      obtain ⟨w', mem, word', here', concerns⟩ := occurs
      by_cases divider : w = "--"
      · rw [divider] at mem
        cases mem
      · rw [List.takeWhile_cons_of_pos (p := fun w => decide (w ≠ "--")) (decide_eq_true divider)] at mem
        rw [classifyAll.eq_3 _ _ _ divider] at classified
        obtain ⟨word, here, classified⟩ := bind_eq_ok_iff.1 classified
        obtain ⟨rest, behind, classified⟩ := bind_eq_ok_iff.1 classified
        cases classified
        have step : s ∈ word.concerned i ∨ i.OccursIn s rest := by
          rcases List.mem_cons.1 mem with rfl | mem
          · rw [here] at here'
            cases here'
            exact .inl concerns
          · exact .inr (ih behind ⟨w', mem, word', here', concerns⟩)
        cases word with
        | divider => exact absurd here (classify_ne_divider w)
        | plain text => exact step
        | flag text o => exact step

/-! ### The keys of what is given -/

theorem keys_of_switchedAll {ss : List Setting} {values : Fields} (all : switchedAll ss = .ok values) :
    values.map Prod.fst = ss.map Setting.key := by
  induction ss generalizing values with
  | nil =>
      cases all
      rfl
  | cons s ss ih =>
      rw [switchedAll] at all
      obtain ⟨given, first, all⟩ := bind_eq_ok_iff.1 all
      obtain ⟨rest, others, all⟩ := bind_eq_ok_iff.1 all
      cases all
      have own : given.map Prod.fst = [s.key] := by
        unfold Setting.switched at first
        split at first <;> cases first
        rfl
      rw [List.map_append, List.map_cons, own, ih others]
      rfl

/-- What a flag gives stands under the keys of the settings that it concerns. -/
theorem keys_of_take {w : String} {o : Occurrence} (known : o.setting = some s) {next : Option Word}
    {values : Fields} {took : Bool} (takes : i.take s o next = .ok (values, took)) :
    values.map Prod.fst = ((Word.flag w o).concerned i).map Setting.key := by
  obtain ⟨⟨before, last, attached⟩, expanded, takes⟩ := bind_eq_ok_iff.1 takes
  have concerned : (Word.flag w o).concerned i = before ++ [last] := by
    rw [Word.concerned, known]
    dsimp only
    rw [expanded]
  have valued : ∀ {v : String} {b : Bool},
      (do return ((← switchedAll before) ++ [(last.key, ← last.valueOf v)], b)) =
        (.ok (values, took) : Except Stop (Fields × Bool)) →
      values.map Prod.fst = (before ++ [last]).map Setting.key := by
    intro v b given
    obtain ⟨front, all, given⟩ := bind_eq_ok_iff.1 given
    obtain ⟨d, value, given⟩ := bind_eq_ok_iff.1 given
    cases given
    rw [List.map_append, List.map_append, keys_of_switchedAll all]
    rfl
  rw [concerned]
  dsimp only at takes
  split at takes
  · split at takes
    · exact valued takes
    · exact valued takes
    · cases takes
  · obtain ⟨all, switched, takes⟩ := bind_eq_ok_iff.1 takes
    cases takes
    exact keys_of_switchedAll switched

/-- Only a plain word is taken. -/
theorem plain_of_take {o : Occurrence} {next : Option Word} {values : Fields}
    (takes : i.take s o next = .ok (values, true)) : ∃ v, next = some (.plain v) := by
  obtain ⟨⟨before, last, attached⟩, expanded, takes⟩ := bind_eq_ok_iff.1 takes
  dsimp only at takes
  split at takes
  · split at takes
    · obtain ⟨front, all, takes⟩ := bind_eq_ok_iff.1 takes
      obtain ⟨d, value, takes⟩ := bind_eq_ok_iff.1 takes
      cases takes
    · exact ⟨_, rfl⟩
    · cases takes
  · obtain ⟨all, switched, takes⟩ := bind_eq_ok_iff.1 takes
    cases takes

theorem mem_keys_presentOperand (w : String) {g : Given} {key : String} (mem : key ∈ g.values.map Prod.fst) :
    key ∈ (i.presentOperand w g).values.map Prod.fst := by
  unfold presentOperand
  split
  · exact List.mem_cons_of_mem _ mem
  · exact mem

/-- A setting that occurs has a value among what the words give. -/
theorem mem_keys_of_readWords {st : OperandState} {words : List Word} {g : Given}
    (reads : i.readWords st words = .ok g) (occurs : i.OccursIn s words) :
    s.key ∈ g.values.map Prod.fst := by
  have mapped : ∀ {r : Except Stop Given} {f : Given → Given} {g : Given}, r.map f = .ok g →
      ∃ g', r = .ok g' ∧ g = f g' := by
    intro r f g same
    cases r with
    | error stop => cases same
    | ok g' =>
        cases same
        exact ⟨g', rfl, rfl⟩
  have given : ∀ {w : String} {o : Occurrence} {t : Setting} {next : Option Word} {values : Fields}
      {took : Bool} {g : Given}, o.setting = some t → i.take t o next = .ok (values, took) →
      s ∈ (Word.flag w o).concerned i ∨ s.key ∈ g.values.map Prod.fst →
      s.key ∈ (g.before values).values.map Prod.fst := by
    intro w o t next values took g known takes found
    rw [Given.before, List.map_append, List.mem_append, keys_of_take (w := w) known takes]
    exact found.imp_left List.mem_map_of_mem
  induction st, words using readWords.induct (i := i) generalizing g with
  | case1 | case2 | case3 => cases occurs
  | case4 w rest ih =>
      obtain ⟨g', later, rfl⟩ := mapped reads
      rcases occurs with concerns | occurs
      · cases concerns
      · exact mem_keys_presentOperand w (ih later occurs)
  | case5 st w rest settled ih =>
      rw [readWords.eq_5 _ _ _ _ settled] at reads
      obtain ⟨g', later, rfl⟩ := mapped reads
      rcases occurs with concerns | occurs
      · cases concerns
      · have there := ih later occurs
        exact there
  | case6 st w o rest unknown ih =>
      rw [readWords_unknown _ _ _ unknown] at reads
      obtain ⟨g', later, rfl⟩ := mapped reads
      rcases occurs with concerns | occurs
      · rw [Word.concerned, unknown] at concerns
        cases concerns
      · have there := ih later occurs
        exact there
  | case7 st w o rest t known stop stops =>
      rw [readWords_refused _ _ _ known stops] at reads
      cases reads
  | case8 st w o t known values head more takes ih =>
      rw [readWords_taking _ _ _ known _ takes] at reads
      obtain ⟨g', later, rfl⟩ := mapped reads
      obtain ⟨v, plain⟩ := plain_of_take takes
      cases plain
      refine given known takes (occurs.imp_right ?_)
      intro behind
      rcases behind with concerns | behind
      · cases concerns
      · exact ih later behind
  | case9 st w o t known values took rest alone takes ih =>
      have last : took = true → rest = [] := by
        intro took
        cases rest with
        | nil => rfl
        | cons head more => exact (alone head more rfl took).elim
      rw [readWords_leaving _ _ _ known takes last] at reads
      obtain ⟨g', later, rfl⟩ := mapped reads
      exact given known takes (occurs.imp_right (ih later))

/-- A setting that occurs on a command line has a value among what the command line gives. -/
theorem exists_value?_of_occurs {argv : List String} {g : Given} (reads : i.read argv = .ok g)
    (occurs : i.Occurs s argv) : ∃ d, g.value? s.key = some d := by
  obtain ⟨words, classified, reads⟩ := bind_eq_ok_iff.1 reads
  have mem := mem_keys_of_readWords reads (occursIn_of_occurs classified occurs)
  rw [← List.mem_reverse, ← List.map_reverse] at mem
  exact Fields.exists_get?_of_mem mem

/-! ### Environments that differ in one variable -/

theorem fromEnvironment_congr {env env' : Environment} {t : Setting}
    (same : env.lookup (environmentKey t.key) = env'.lookup (environmentKey t.key)) :
    t.fromEnvironment env = t.fromEnvironment env' := by
  unfold Setting.fromEnvironment
  dsimp only
  rw [same]

/-- Settings that come to the same values in two environments come to the same together. -/
theorem complete_congr {env env' : Environment} {g : Given}
    (same : ∀ t ∈ i.settings, (t.fromEnvironment env).1.valueIn g = (t.fromEnvironment env').1.valueIn g) :
    (i.withEnvironment env).complete g = (i.withEnvironment env').complete g := by
  have all := completeAll_congr (keeps_fromEnvironment env) (keeps_fromEnvironment env') same
  unfold complete withEnvironment
  dsimp only
  rw [all]

end Interface

/-- Two command lines come to the same stop, or to values that agree but for those under one key. -/
def ComeToSameBut (key : String) : Except Stop Fields → Except Stop Fields → Prop
  | .ok values, .ok values' => values.AgreeBut key values'
  | .error stop, .error stop' => stop = stop'
  | _, _ => False

/-- Settings that come to the same values one by one, but for those with one key, come to values together that
    agree but for this key. -/
theorem agreeBut_of_completeAll {f f' : Setting → Setting} (keeps : Keeps f) (keeps' : Keeps f') {g : Given}
    {key : String} {ss : List Setting}
    (same : ∀ s ∈ ss, s.key ≠ key → (f s).valueIn g = (f' s).valueIn g) {values values' : Fields}
    (comes : completeAll g (ss.map f) = .ok values) (comes' : completeAll g (ss.map f') = .ok values') :
    values.AgreeBut key values' := by
  induction ss generalizing values values' with
  | nil =>
      cases comes
      cases comes'
      exact Fields.AgreeBut.refl key []
  | cons s ss ih =>
      have rest : ∀ {more more' : Fields}, completeAll g (ss.map f) = .ok more →
          completeAll g (ss.map f') = .ok more' → more.AgreeBut key more' :=
        ih fun t mem => same t (List.mem_cons_of_mem s mem)
      have announces : (f s).announces = (f' s).announces := by
        unfold Setting.announces
        rw [keeps.action, keeps'.action]
      rw [List.map_cons, completeAll_cons] at comes comes'
      rw [announces] at comes
      cases silent : (f' s).announces with
      | true =>
          rw [silent] at comes comes'
          exact rest comes comes'
      | false =>
          rw [silent] at comes comes'
          obtain ⟨d, value, comes⟩ := bind_eq_ok_iff.1 comes
          obtain ⟨more, others, comes⟩ := bind_eq_ok_iff.1 comes
          obtain ⟨d', value', comes'⟩ := bind_eq_ok_iff.1 comes'
          obtain ⟨more', others', comes'⟩ := bind_eq_ok_iff.1 comes'
          cases comes
          cases comes'
          rw [keeps.key, keeps'.key]
          by_cases own : s.key = key
          · subst own
            exact (rest others others').cons_key d d'
          · rw [same s List.mem_cons_self own, value'] at value
            cases value
            exact (rest others others').append [(s.key, d)]

section Variable

variable {s : Setting} (listed : s ∈ program.settings) {env env' : Environment}
  (same : ∀ name, name ≠ environmentKey s.key → env.lookup name = env'.lookup name)

include listed same

/-- The variable of a setting does not change the default of another one. -/
theorem fromEnvironment_of_other {t : Setting} (listed' : t ∈ program.settings) (other : t.key ≠ s.key) :
    t.fromEnvironment env = t.fromEnvironment env' := by
  apply Interface.fromEnvironment_congr
  apply same
  intro name
  exact other (congrArg Setting.key (Interface.eq_of_environmentKey_eq distinct_program listed listed' name))

/-- Two environments that differ in the variable of one setting. A command line on which the setting occurs
    comes to the same in both; any other one comes to the same stop, or to values of which at most that of this
    setting differs. -/
theorem parse_of_one_variable (argv : List String) :
    (program.Occurs s argv → program.parse env argv = program.parse env' argv) ∧
    ComeToSameBut s.key (program.parse env argv) (program.parse env' argv) := by
  rw [Interface.parse_eq, Interface.parse_eq]
  cases reads : program.read argv with
  | error stop => exact ⟨fun _ => rfl, rfl⟩
  | ok g =>
      have others : ∀ t ∈ program.settings, t.key ≠ s.key →
          (t.fromEnvironment env).1.valueIn g = (t.fromEnvironment env').1.valueIn g := by
        intro t listed' other
        rw [fromEnvironment_of_other listed same listed' other]
      constructor
      · intro occurs
        obtain ⟨d, given⟩ := Interface.exists_value?_of_occurs reads occurs
        apply Interface.complete_congr
        intro t listed'
        by_cases own : t.key = s.key
        · rw [Setting.valueIn, Setting.valueIn, (Interface.keeps_fromEnvironment env).key,
            (Interface.keeps_fromEnvironment env').key, own, given]
        · exact others t listed' own
      · obtain ⟨filling, filled⟩ := exists_completeAll_program env g
        obtain ⟨filling', filled'⟩ := exists_completeAll_program env' g
        have agree : filling.AgreeBut s.key filling' :=
          agreeBut_of_completeAll (Interface.keeps_fromEnvironment env) (Interface.keeps_fromEnvironment env')
            others filled filled'
        change ComeToSameBut s.key ((program.withEnvironment env).complete g)
          ((program.withEnvironment env').complete g)
        unfold Interface.complete
        rw [filled, filled']
        simp only [bind, Except.bind]
        split
        · exact agree.append _
        · rfl

end Variable

/-- The setting of the log threshold. -/
def levelSetting : Setting :=
  { flags := ["--log-level"], key := "log_level", action := .value .capitals levelChoices
    default := .str "WARNING" }

/-- A threshold that is given by a shortened flag, with and without a variable that asks for another one. -/
theorem parse_shortened_level :
    levelSetting ∈ program.settings ∧
    (∀ name, name ≠ environmentKey levelSetting.key →
      List.lookup name [("MDPLAIN_LOG_LEVEL", "LOUD"), ("MDPLAIN_TRACE", "yes")] =
        List.lookup name [("MDPLAIN_TRACE", "yes")]) ∧
    program.Occurs levelSetting ["--log-l", "info", "doc.md"] ∧
    program.parse [("MDPLAIN_LOG_LEVEL", "LOUD"), ("MDPLAIN_TRACE", "yes")] ["--log-l", "info", "doc.md"] =
      program.parse [("MDPLAIN_TRACE", "yes")] ["--log-l", "info", "doc.md"] := by
  have listed : levelSetting ∈ program.settings := List.mem_of_getElem? (i := 4) rfl
  have same : ∀ name, name ≠ environmentKey levelSetting.key →
      List.lookup name [("MDPLAIN_LOG_LEVEL", "LOUD"), ("MDPLAIN_TRACE", "yes")] =
        List.lookup name [("MDPLAIN_TRACE", "yes")] := by
    intro name other
    have key : environmentKey levelSetting.key = "MDPLAIN_LOG_LEVEL" := by decide +kernel
    rw [key] at other
    rw [List.lookup_cons, beq_eq_false_iff_ne.2 other]
  have occurs : program.Occurs levelSetting ["--log-l", "info", "doc.md"] :=
    ⟨"--log-l", List.mem_cons_self, .flag "--log-l" ⟨some levelSetting, "--log-level", none⟩, rfl,
      List.mem_singleton_self _⟩
  exact ⟨listed, same, occurs, (parse_of_one_variable listed same _).1 occurs⟩

end Unmark.CommandLine
