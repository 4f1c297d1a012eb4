import Mathlib.Data.List.Forall2
import Mathlib.Data.List.Perm.Basic
import Unmark.Proofs.EnvironmentDefaults
import Unmark.Proofs.RunEndings
import Unmark.Proofs.TypedSeparators

/-
Module: Unmark.Proofs.SpelledOptions
Layer: Proofs
Purpose: Options that are spelled out on the command line. A word that is a flag with all it needs gives one
  value wherever it stands (`Interface.Gives`). So the order of such words does not matter, nor where the
  operand stands among them, as long as each key is given once (`exists_read_of_gives`). The words that
  spell out options give these options back, but for one text: two hyphens as a value give no value.
Main exports: Interface.Gives, Interface.exists_read_of_gives, spelled, parse_spelled
-/

namespace Unmark.CommandLine

/-! ### Words that give a value wherever they stand -/

namespace Interface

/-- A word that is a flag with all it needs, and gives one value under a key. -/
def Gives (i : Interface) (w : String) (e : String × Data) : Prop :=
  w ≠ "--" ∧ ∃ s o, i.classify w = .ok (.flag w o) ∧ o.setting = some s ∧
    ∀ next, i.take s o next = .ok ([e], false)

variable {i : Interface}

section Flags

variable (distinct : i.Distinct) {s : Setting} (listed : s ∈ i.settings) {flag : String}
  (known : flag ∈ s.flags)

include distinct listed known

theorem gives_switch {b : Bool} (action : s.action = .switch b) (no_divider : flag ≠ "--") :
    i.Gives flag (s.key, .bool b) := by
  refine ⟨no_divider, s, _, classify_flag distinct listed known, rfl, ?_⟩
  intro next
  have no_value : s.takesValue = false := by rw [Setting.takesValue, action]
  have switched : switchedAll [s] = .ok [(s.key, .bool b)] := by
    rw [switchedAll, Setting.switched, action]
    rfl
  rw [take, expand]
  simp only [bind, Except.bind, no_value, List.nil_append, switched]
  rfl

theorem gives_attach (takes : s.takesValue = true) {v : String} {d : Data} (valued : s.valueOf v = .ok d) :
    i.Gives (attach flag v) (s.key, d) := by
  refine ⟨?_, s, _, classify_attach distinct listed known v, rfl, ?_⟩
  · intro same
    have sign : '=' ∈ (attach flag v).toList := by simp [toList_attach]
    rw [same] at sign
    exact absurd sign (by decide)
  · intro next
    rw [take_attached v takes, valued]
    rfl

end Flags

/-! ### Command lines of such words and an operand -/

/-- What a command line gives from some state on. -/
def readFrom (i : Interface) (st : OperandState) (argv : List String) : Except Stop Given :=
  i.classifyAll argv >>= i.readWords st

theorem readFrom_gives {w : String} {e : String × Data} (gives : i.Gives w e) (st : OperandState)
    (argv : List String) :
    i.readFrom st (w :: argv) = (i.readFrom st.afterFlag argv).map (Given.before [e]) := by
  obtain ⟨no_divider, s, o, classified, concerned, takes⟩ := gives
  rw [readFrom, readFrom, classifyAll.eq_3 _ _ _ no_divider, classified]
  cases i.classifyAll argv with
  | error stop => rfl
  | ok words => exact readWords_leaving i st w concerned (takes words.head?) (fun took => by cases took)

/-- Words behind the operand. -/
theorem readFrom_settled {ws : List String} {es : Fields} (gives : List.Forall₂ i.Gives ws es)
    {st : OperandState} (seen : st ≠ .expected) : i.readFrom st ws = .ok { values := es } := by
  induction gives generalizing st with
  | nil =>
      cases st with
      | expected => exact absurd rfl seen
      | justTaken | settled => rfl
  | @cons w e ws es here _ ih =>
      have later : st.afterFlag ≠ .expected := by
        cases st with
        | expected => exact absurd rfl seen
        | justTaken | settled => exact OperandState.noConfusion
      rw [readFrom_gives here, ih later]
      rfl

section Operand

variable {key usual : String} (operand : i.operand = some (key, usual)) {input : String}
  (plain : input.toList.head? ≠ some '-')

include operand plain

/-- The operand, with words behind it. -/
theorem readFrom_operand {ws : List String} {es : Fields} (gives : List.Forall₂ i.Gives ws es) :
    i.readFrom .expected (input :: ws) = .ok { values := (key, .str input) :: es } := by
  have no_divider : input ≠ "--" := by
    rintro rfl
    exact plain (by decide)
  have classified : i.classify input = .ok (.plain input) := by
    unfold classify
    split
    · rename_i rest text
      rw [text] at plain
      exact absurd rfl plain
    · rfl
  have behind : i.readFrom .justTaken ws = .ok { values := es } :=
    readFrom_settled gives OperandState.noConfusion
  rw [readFrom] at behind ⊢
  rw [classifyAll.eq_3 _ _ _ no_divider, classified]
  cases all : i.classifyAll ws with
  | error stop =>
      rw [all] at behind
      cases behind
  | ok words =>
      rw [all] at behind
      change (i.readWords .justTaken words).map (i.presentOperand input) = _
      change i.readWords .justTaken words = _ at behind
      rw [behind, Except.map, presentOperand, operand]
      rfl

/-- The operand, with words in front of it and behind it. -/
theorem exists_readFrom (front : List String) {back : List String} {es : Fields}
    (gives : List.Forall₂ i.Gives (front ++ back) es) :
    ∃ vs, i.readFrom .expected (front ++ input :: back) = .ok { values := vs } ∧
      vs.Perm ((key, .str input) :: es) := by
  induction front generalizing es with
  | nil => exact ⟨_, readFrom_operand operand plain gives, List.Perm.refl _⟩
  | cons w front ih =>
      rw [List.cons_append] at gives
      rcases gives with _ | ⟨here, behind⟩
      rename_i e es
      obtain ⟨vs, reads, order⟩ := ih behind
      refine ⟨e :: vs, ?_, (order.cons e).trans (List.Perm.swap _ _ _)⟩
      rw [List.cons_append, readFrom_gives here, OperandState.afterFlag, reads]
      rfl

/-- Words that each give a value, and an operand, in any order: all the values are given, and that of the
    operand, and no word is left. -/
theorem exists_read_of_gives {ws : List String} {es : Fields} (gives : List.Forall₂ i.Gives ws es)
    {argv : List String} (order : argv.Perm (input :: ws)) :
    ∃ vs, i.read argv = .ok { values := vs } ∧ vs.Perm ((key, .str input) :: es) := by
  obtain ⟨front, back, rfl⟩ := List.append_of_mem (order.mem_iff.2 List.mem_cons_self)
  have others : (front ++ back).Perm ws := (List.perm_middle.symm.trans order).cons_inv
  obtain ⟨es', gives', order'⟩ := List.perm_comp_forall₂ others gives
  obtain ⟨vs, reads, order''⟩ := exists_readFrom operand plain front gives'
  refine ⟨vs, ?_, order''.trans (order'.cons _)⟩
  rw [read, operand]
  exact reads

end Operand

end Interface

/-! ### Options in words -/

/-- A truth value among options, with the flag that tells that it is not as usual. -/
structure Switch where
  flag : String
  key : String
  usual : Bool
  value : Bool

/-- The truth values among all options. -/
def switches (o : Markdown.Options) (q : PlainText.Options) : List Switch :=
  [⟨"--no-strikethrough", "parse_strikethrough", true, o.strikethrough⟩,
   ⟨"--no-tables", "parse_tables", true, o.tables⟩,
   ⟨"--no-footnotes", "parse_footnotes", true, o.footnotes⟩,
   ⟨"--no-task-lists", "parse_task_lists", true, o.taskLists⟩,
   ⟨"--no-frontmatter", "parse_frontmatter", true, o.frontMatter⟩,
   ⟨"--emit-frontmatter", "emit_frontmatter_node", false, o.frontMatterNode⟩,
   ⟨"--emit-definitions", "emit_definition_nodes", false, o.definitionNodes⟩,
   ⟨"--no-warn-on-unknown-kinds", "warn_on_unknown_kinds", true, q.warnOnUnknownKinds⟩]

/-- The truth values that are not as usual. -/
def flipped (o : Markdown.Options) (q : PlainText.Options) : List Switch :=
  (switches o q).filter fun s => s.value ≠ s.usual

/-- Options as words: the flag of every truth value that is not as usual, the separator as it is typed, and
    the phrase. -/
def spelled (o : Markdown.Options) (q : PlainText.Options) : List String :=
  (flipped o q).map Switch.flag ++
    [Interface.attach "--block-separator" (escape q.blockSeparator),
     Interface.attach "--strikethrough-phrase" q.strikethroughPhrase]

/-- The value that a typed text gives for a text. Two hyphens give no value. -/
def textGiven (text : String) : Data := if text = "--" then .list [] else .str text

/-- What the words of options give. -/
def spelledValues (o : Markdown.Options) (q : PlainText.Options) : Fields :=
  (flipped o q).map (fun s => (s.key, .bool s.value)) ++
    [("block_separator", textGiven q.blockSeparator), ("strikethrough_phrase", textGiven q.strikethroughPhrase)]

/-- What the words of options and an operand give. -/
def allGiven (o : Markdown.Options) (q : PlainText.Options) (input : String) : Fields :=
  ("input", .str input) :: spelledValues o q

/-- The setting of a truth value. -/
def Switch.setting (s : Switch) : Setting :=
  { flags := [s.flag], key := s.key, action := .switch !s.usual, default := .bool s.usual }

/-- The setting of the phrase for struck-through text. -/
def phraseSetting : Setting :=
  { flags := ["--strikethrough-phrase"], key := "strikethrough_phrase", action := .value .text []
    default := .str (default : PlainText.Options).strikethroughPhrase }

theorem phraseSetting_mem : phraseSetting ∈ program.settings := by
  simp [program, renderSettings, phraseSetting]

section Spelled

variable (o : Markdown.Options) (q : PlainText.Options)

theorem setting_mem_of_mem_switches {s : Switch} (mem : s ∈ switches o q) : s.setting ∈ program.settings := by
  have all : (switches o q).map Switch.setting =
      markdownSettings ++ [optionSwitch "warn_on_unknown_kinds" "no-warn-on-unknown-kinds" true] := rfl
  have listed := List.mem_map_of_mem (f := Switch.setting) mem
  rw [all, List.mem_append, List.mem_singleton] at listed
  rcases listed with markdown | warning
  · exact List.mem_append_left _ (List.mem_append_left _ (List.mem_append_right _ markdown))
  · have rendering : s.setting ∈ renderSettings := by
      rw [warning]
      exact List.mem_cons_of_mem _ (List.mem_cons_of_mem _ List.mem_cons_self)
    exact List.mem_append_left _ (List.mem_append_right _ rendering)

theorem flag_ne_hyphens_of_mem_switches {s : Switch} (mem : s ∈ switches o q) : s.flag ≠ "--" := by
  have all : ∀ flag ∈ (switches o q).map Switch.flag, flag ≠ "--" := by
    change ∀ flag ∈ ["--no-strikethrough", "--no-tables", "--no-footnotes", "--no-task-lists",
      "--no-frontmatter", "--emit-frontmatter", "--emit-definitions", "--no-warn-on-unknown-kinds"], flag ≠ "--"
    decide
  exact all _ (List.mem_map_of_mem mem)

/-- The operand, the two texts and the truth values have keys of their own. -/
theorem nodup_option_keys :
    (["input", "block_separator", "strikethrough_phrase"] ++ (switches o q).map Switch.key).Nodup := by
  change ["input", "block_separator", "strikethrough_phrase", "parse_strikethrough", "parse_tables",
    "parse_footnotes", "parse_task_lists", "parse_frontmatter", "emit_frontmatter_node", "emit_definition_nodes",
    "warn_on_unknown_kinds"].Nodup
  decide

theorem nodup_switch_keys : ((switches o q).map Switch.key).Nodup :=
  (List.nodup_append.1 (nodup_option_keys o q)).2.1

theorem key_not_mem_of_mem_switches {s : Switch} (mem : s ∈ switches o q) :
    s.key ∉ ["input", "block_separator", "strikethrough_phrase"] := by
  intro other
  exact (List.nodup_append.1 (nodup_option_keys o q)).2.2 _ other _ (List.mem_map_of_mem mem) rfl

theorem gives_flipped {s : Switch} (mem : s ∈ flipped o q) : program.Gives s.flag (s.key, .bool s.value) := by
  obtain ⟨mem, differs⟩ := List.mem_filter.1 mem
  have value : (!s.usual) = s.value := by
    rw [decide_eq_true_eq] at differs
    exact (Bool.eq_not_of_ne differs).symm
  rw [← value]
  exact Interface.gives_switch distinct_program (setting_mem_of_mem_switches o q mem)
    (List.mem_singleton_self _) rfl (flag_ne_hyphens_of_mem_switches o q mem)

theorem gives_separator : program.Gives (Interface.attach "--block-separator" (escape q.blockSeparator))
    ("block_separator", textGiven q.blockSeparator) := by
  refine Interface.gives_attach distinct_program separatorSetting_mem (List.mem_singleton_self _) rfl ?_
  rw [Setting.valueOf, textGiven]
  by_cases hyphens : q.blockSeparator = "--"
  · rw [if_pos (escape_eq_hyphens_iff.2 hyphens), if_pos hyphens]
  · rw [if_neg (mt escape_eq_hyphens_iff.1 hyphens), if_neg hyphens]
    change Except.ok (Data.str (unescape (escape q.blockSeparator))) = _
    rw [unescape_escape]

theorem gives_phrase : program.Gives (Interface.attach "--strikethrough-phrase" q.strikethroughPhrase)
    ("strikethrough_phrase", textGiven q.strikethroughPhrase) := by
  refine Interface.gives_attach distinct_program phraseSetting_mem (List.mem_singleton_self _) rfl ?_
  rw [Setting.valueOf, textGiven]
  by_cases hyphens : q.strikethroughPhrase = "--"
  · rw [if_pos hyphens, if_pos hyphens]
  · rw [if_neg hyphens, if_neg hyphens]
    rfl

theorem gives_spelled : List.Forall₂ program.Gives (spelled o q) (spelledValues o q) := by
  refine List.rel_append ?_ (.cons (gives_separator q) (.cons (gives_phrase q) .nil))
  rw [List.forall₂_map_left_iff, List.forall₂_map_right_iff, List.forall₂_same]
  intro s mem
  exact gives_flipped o q mem

/-- Each key is given once. -/
theorem nodup_given_keys (input : String) : ((allGiven o q input).map Prod.fst).Nodup := by
  have within : ((flipped o q).map Switch.key).Sublist ((switches o q).map Switch.key) :=
    List.filter_sublist.map _
  have order : (["input", "block_separator", "strikethrough_phrase"] ++ (switches o q).map Switch.key).Perm
      ("input" :: ((switches o q).map Switch.key ++ ["block_separator", "strikethrough_phrase"])) :=
    List.perm_append_comm.cons "input"
  refine (order.nodup_iff.1 (nodup_option_keys o q)).sublist ?_
  rw [allGiven, List.map_cons, spelledValues, List.map_append, List.map_map]
  exact (within.append (List.Sublist.refl _)).cons_cons _

end Spelled

/-! ### Options among values -/

theorem get?_known {names : List String} {key : String} (named : key ∈ names) (values : Fields) :
    (known names values).get? key = values.get? key := by
  have same : (fun v : String × Data => decide (names.contains v.1 = true ∧ (v.1 == key) = true)) =
      fun v => v.1 == key := by
    funext v
    cases here : v.1 == key with
    | false => simp
    | true =>
        rw [eq_of_beq here]
        simp [named]
  rw [Fields.get?, Fields.get?, known, List.find?_filter, same]

/-- Values that tell the options of reading Markdown are these options. -/
theorem markdownOptions_eq_ok {values : Fields} {o : Markdown.Options}
    (told : ∀ f ∈ o.flags, values.get? f.1 = some (.bool f.2)) : markdownOptions values = .ok o := by
  have value : ∀ f ∈ o.flags, (known Markdown.Options.names values).get? f.1 = some (.bool f.2) := by
    intro f mem
    have named : f.1 ∈ o.flags.map Prod.fst := List.mem_map_of_mem mem
    change f.1 ∈ Markdown.Options.names at named
    rw [get?_known named, told f mem]
  simp only [Markdown.Options.flags, List.forall_mem_cons] at value
  unfold markdownOptions Markdown.Options.ofFields Markdown.Options.update
  rw [find?_known]
  simp only [value, Data.truthy]
  rfl

/-- Values that tell the options of rendering are these options if they tell both texts. -/
theorem renderOptions_eq_ok_iff {values : Fields} {q : PlainText.Options}
    (separator : values.get? "block_separator" = some (textGiven q.blockSeparator))
    (phrase : values.get? "strikethrough_phrase" = some (textGiven q.strikethroughPhrase))
    (warns : values.get? "warn_on_unknown_kinds" = some (.bool q.warnOnUnknownKinds)) :
    renderOptions values = .ok q ↔ q.blockSeparator ≠ "--" ∧ q.strikethroughPhrase ≠ "--" := by
  rw [← get?_known (by decide : _ ∈ PlainText.Options.names)] at separator phrase warns
  unfold renderOptions PlainText.Options.ofFields PlainText.Options.update
  rw [find?_known]
  by_cases hyphens : q.blockSeparator = "--"
  · rw [textGiven, if_pos hyphens] at separator
    refine iff_of_false ?_ (fun texts => texts.1 hyphens)
    have empty : (if (Data.list []).truthy = true then "\n" else "") = "" := rfl
    simp only [separator]
    rw [dif_pos empty]
    intro refused
    cases refused
  · rw [textGiven, if_neg hyphens] at separator
    simp only [PlainText.Options.stringOr, PlainText.Options.boolOr, separator, phrase, warns]
    rw [dif_neg q.separator_ne, textGiven]
    by_cases hyphens' : q.strikethroughPhrase = "--"
    · rw [if_pos hyphens']
      refine iff_of_false ?_ (fun texts => texts.2 hyphens')
      intro same
      have usual : "strikethrough: " = q.strikethroughPhrase :=
        congrArg PlainText.Options.strikethroughPhrase (Except.ok.inj same)
      rw [hyphens'] at usual
      exact absurd usual (by decide)
    · rw [if_neg hyphens']
      exact iff_of_true rfl ⟨hyphens, hyphens'⟩

/-! ### The way back -/

/-- An environment without variables of the program leaves every default as it is. -/
theorem fromEnvironment_of_foreign {env : Environment}
    (foreign : ∀ v ∈ env, ¬ environmentStart.toList <+: v.1.toList) (s : Setting) :
    (s.fromEnvironment env).1 = s := by
  have unset : env.lookup (environmentKey s.key) = none := by
    cases found : env.lookup (environmentKey s.key) with
    | none => rfl
    | some v =>
        refine absurd ?_ (foreign _ (mem_of_lookup_eq_some found))
        rw [environmentKey, String.toList_append]
        exact List.prefix_append _ _
  rw [Setting.fromEnvironment, unset]

/-- Where no word is left, the program comes to values. -/
theorem exists_complete_program (env : Environment) (given : Fields) :
    ∃ values, (program.withEnvironment env).complete { values := given } = .ok values := by
  obtain ⟨filling, filled⟩ := exists_completeAll_program env { values := given }
  unfold Interface.complete
  rw [filled]
  exact ⟨_, rfl⟩

/-- The value of the operand is among all values. -/
theorem get?_operand_of_complete {i : Interface} {key usual : String} (operand : i.operand = some (key, usual))
    {g : Given} {values : Fields} (completed : i.complete g = .ok values) :
    values.get? key = some ((g.value? key).getD (.str usual)) := by
  unfold Interface.complete at completed
  rw [operand] at completed
  dsimp only at completed
  cases filled : completeAll g i.settings with
  | error stop =>
      rw [filled] at completed
      cases completed
  | ok filling =>
      rw [filled] at completed
      simp only [bind, Except.bind] at completed
      split at completed
      · cases completed
        rw [List.singleton_append, Fields.get?_cons, if_pos rfl]
      · cases completed

section Back

variable (o : Markdown.Options) (q : PlainText.Options) (input : String)

theorem get?_allGiven_eq_some_iff {key : String} {d : Data} :
    (allGiven o q input).get? key = some d ↔ (key, d) ∈ allGiven o q input :=
  Fields.get?_eq_some_iff (nodup_given_keys o q input)

/-- A truth value is given if it is not as usual. -/
theorem get?_allGiven_switch {s : Switch} (mem : s ∈ switches o q) :
    (allGiven o q input).get? s.key = if s.value = s.usual then none else some (.bool s.value) := by
  have other := key_not_mem_of_mem_switches o q mem
  by_cases usual : s.value = s.usual
  · rw [if_pos usual, Option.eq_none_iff_forall_ne_some]
    intro d found
    rw [get?_allGiven_eq_some_iff] at found
    rcases List.mem_cons.1 found with same | found
    · have key : s.key = "input" := congrArg Prod.fst same
      apply other
      rw [key]
      exact List.mem_cons_self
    rcases List.mem_append.1 found with flip | text
    · obtain ⟨s', differs, same⟩ := List.mem_map.1 flip
      obtain ⟨mem', differs⟩ := List.mem_filter.1 differs
      have equal : s' = s :=
        List.inj_on_of_nodup_map (nodup_switch_keys o q) mem' mem (congrArg Prod.fst same)
      rw [equal] at differs
      exact absurd usual (of_decide_eq_true differs)
    · apply other
      exact List.mem_cons_of_mem _ (List.mem_map_of_mem (f := Prod.fst) text)
  · rw [if_neg usual, get?_allGiven_eq_some_iff]
    have differs : s ∈ flipped o q := List.mem_filter.2 ⟨mem, decide_eq_true usual⟩
    exact List.mem_cons_of_mem _ (List.mem_append_left _ (List.mem_map.2 ⟨s, differs, rfl⟩))

variable {vs : Fields} (order : vs.Perm (allGiven o q input))

include order

/-- The order in which values are given does not matter. -/
theorem value?_eq (key : String) : Given.value? { values := vs } key = (allGiven o q input).get? key :=
  Fields.get?_eq_of_perm ((List.reverse_perm vs).trans order) (nodup_given_keys o q input) key

/-- A truth value comes from its flag, or else it is as usual. -/
theorem valueIn_switch {s : Switch} (mem : s ∈ switches o q) :
    s.setting.valueIn { values := vs } = .ok (.bool s.value) := by
  rw [Setting.valueIn, Switch.setting, value?_eq o q input order, get?_allGiven_switch o q input mem]
  by_cases usual : s.value = s.usual
  · rw [if_pos usual, usual]
    rfl
  · rw [if_neg usual]

/-- The separator and the phrase are as they are typed. -/
theorem valueIn_text {s : Setting} {d : Data} (mem : (s.key, d) ∈ allGiven o q input) :
    s.valueIn { values := vs } = .ok d := by
  rw [Setting.valueIn, value?_eq o q input order, (get?_allGiven_eq_some_iff o q input).2 mem]

end Back

/-- Options that are spelled out come back, in every environment that does not concern the program, in any
    order and with any operand among them that does not start with a hyphen: the command line is accepted
    and the operand is the input, the options of reading are those that were spelled out, and so are the options
    of rendering if neither of their texts is two hyphens. These are taken for no text at all. -/
theorem parse_spelled (o : Markdown.Options) (q : PlainText.Options) {env : Environment}
    (foreign : ∀ v ∈ env, ¬ environmentStart.toList <+: v.1.toList) {input : String}
    (plain : input.toList.head? ≠ some '-') {argv : List String} (order : argv.Perm (input :: spelled o q)) :
    ∃ values, program.parse env argv = .ok values ∧ textUnder values "input" = input ∧
      markdownOptions values = .ok o ∧
      values.get? "block_separator" = some (textGiven q.blockSeparator) ∧
      values.get? "strikethrough_phrase" = some (textGiven q.strikethroughPhrase) ∧
      values.get? "warn_on_unknown_kinds" = some (.bool q.warnOnUnknownKinds) ∧
      (renderOptions values = .ok q ↔ q.blockSeparator ≠ "--" ∧ q.strikethroughPhrase ≠ "--") := by
  have operand : program.operand = some ("input", standardInput) := rfl
  obtain ⟨vs, reads, all⟩ := Interface.exists_read_of_gives operand plain (gives_spelled o q) order
  obtain ⟨values, completed⟩ := exists_complete_program env vs
  have parsed : program.parse env argv = .ok values := by
    rw [Interface.parse_eq, reads]
    exact completed
  have value : ∀ {s : Setting} {d : Data}, s ∈ program.settings → s.announces = false →
      s.valueIn { values := vs } = .ok d → values.get? s.key = some d := by
    intro s d listed silent comes
    obtain ⟨d', comes', found⟩ := Interface.get?_of_complete distinct_program listed silent completed
    rw [fromEnvironment_of_foreign foreign, comes] at comes'
    cases comes'
    exact found
  have switch : ∀ s ∈ switches o q, values.get? s.key = some (.bool s.value) := by
    intro s mem
    exact value (setting_mem_of_mem_switches o q mem) rfl (valueIn_switch o q input all mem)
  have separator : values.get? "block_separator" = some (textGiven q.blockSeparator) := by
    refine value separatorSetting_mem rfl (valueIn_text o q input all ?_)
    exact List.mem_cons_of_mem _ (List.mem_append_right _ List.mem_cons_self)
  have phrase : values.get? "strikethrough_phrase" = some (textGiven q.strikethroughPhrase) := by
    refine value phraseSetting_mem rfl (valueIn_text o q input all ?_)
    exact List.mem_cons_of_mem _ (List.mem_append_right _ (List.mem_cons_of_mem _ List.mem_cons_self))
  have warns : values.get? "warn_on_unknown_kinds" = some (.bool q.warnOnUnknownKinds) :=
    switch ⟨"--no-warn-on-unknown-kinds", "warn_on_unknown_kinds", true, q.warnOnUnknownKinds⟩
      (List.mem_of_getElem? (i := 7) rfl)
  refine ⟨values, parsed, ?_, ?_, separator, phrase, warns,
    renderOptions_eq_ok_iff separator phrase warns⟩
  · have given : (allGiven o q input).get? "input" = some (.str input) := by
      rw [get?_allGiven_eq_some_iff]
      exact List.mem_cons_self
    have operand' : (program.withEnvironment env).operand = some ("input", standardInput) := rfl
    rw [textUnder, get?_operand_of_complete operand' completed, value?_eq o q input all, given]
    rfl
  · apply markdownOptions_eq_ok
    intro f mem
    have same : o.flags = ((switches o q).take 7).map fun s => (s.key, s.value) := rfl
    rw [same] at mem
    obtain ⟨s, front, rfl⟩ := List.mem_map.1 mem
    exact switch s (List.mem_of_mem_take front)

/-- Options that are not as usual in two texts and one truth value, with the operand among their words. -/
theorem parse_spelled_tables :
    let o : Markdown.Options := { tables := false }
    let q : PlainText.Options := { blockSeparator := "\n\\", strikethroughPhrase := "gone" }
    let argv := ["--strikethrough-phrase=gone", "doc.md", "--no-tables", "--block-separator=\\n\\\\"]
    (∀ v ∈ [("HOME", "/root")], ¬ environmentStart.toList <+: v.1.toList) ∧
    "doc.md".toList.head? ≠ some '-' ∧ argv.Perm ("doc.md" :: spelled o q) ∧
    ∃ values, program.parse [("HOME", "/root")] argv = .ok values ∧
      markdownOptions values = .ok o ∧ renderOptions values = .ok q := by
  intro o q argv
  have foreign : ∀ v ∈ [("HOME", "/root")], ¬ environmentStart.toList <+: v.1.toList := by decide +kernel
  have order : argv.Perm ("doc.md" :: spelled o q) := by decide +kernel
  obtain ⟨values, parsed, -, markdown, -, -, -, rendering⟩ :=
    parse_spelled o q foreign (by decide : "doc.md".toList.head? ≠ some '-') order
  exact ⟨foreign, by decide, order, values, parsed, markdown, rendering.2 ⟨by decide, by decide⟩⟩

/-- Two hyphens as the separator. Spelled out they are refused as if there were no separator; from the
    environment they come through. -/
theorem parse_hyphens_separator :
    let q : PlainText.Options := { blockSeparator := "--" }
    spelled {} q = ["--block-separator=--", "--strikethrough-phrase=strikethrough: "] ∧
    ∃ values values', program.parse [] ("doc.md" :: spelled {} q) = .ok values ∧
      program.parse [("MDPLAIN_BLOCK_SEPARATOR", "--")] ["doc.md"] = .ok values' ∧
      renderOptions values = .error (refusedValues PlainText.Options.owner .emptySeparator) ∧
      renderOptions values' = .ok q := by
  refine ⟨by decide +kernel, _, _, rfl, rfl, rfl, rfl⟩

end Unmark.CommandLine
