import Unmark.CommandLine.Program

/-
Module: Unmark.Proofs.ReadingDefaults
Layer: Proofs
Purpose: What a command line gives does not depend on the defaults of the settings, and so not on the
  environment. A change of the settings that keeps flags, keys and actions goes through every part of the
  reading: the words are classified alike, each flag takes the same words, and the same values come out.
Main exports: Keeps, Interface.map, Interface.read_map, Interface.read_withEnvironment, Interface.parse_eq,
  completeAll_cons
-/

namespace Unmark.CommandLine

/-- A change of settings that concerns their defaults only. -/
structure Keeps (f : Setting → Setting) : Prop where
  flags : ∀ s, (f s).flags = s.flags
  key : ∀ s, (f s).key = s.key
  action : ∀ s, (f s).action = s.action

/-- An interface with its settings changed. -/
def Interface.map (f : Setting → Setting) (i : Interface) : Interface :=
  { i with settings := i.settings.map f }

/-- An occurrence of a setting that was changed. -/
def Occurrence.map (f : Setting → Setting) (o : Occurrence) : Occurrence :=
  { o with setting := o.setting.map f }

/-- A word whose setting was changed. -/
def Word.map (f : Setting → Setting) : Word → Word
  | flag text o => .flag text (o.map f)
  | w => w

@[simp] theorem Word.text_map (f : Setting → Setting) (w : Word) : (w.map f).text = w.text := by
  cases w <;> rfl

namespace Interface

/-! ### One step of the reading -/

section Steps

variable (i : Interface) (st : OperandState) (w : String) {o : Occurrence} {s : Setting} {values : Fields}

theorem readWords_divider (rest : List Word) :
    i.readWords st (.divider :: rest) = .ok (i.afterDivider rest st) := by
  cases st <;> rfl

theorem readWords_unknown (unknown : o.setting = none) (rest : List Word) :
    i.readWords st (.flag w o :: rest) =
      (i.readWords st.afterFlag rest).map (Given.surplusWord w) := by
  cases st <;> simp only [readWords, unknown]

theorem readWords_refused (known : o.setting = some s) {rest : List Word} {stop : Stop}
    (stops : i.take s o rest.head? = .error stop) : i.readWords st (.flag w o :: rest) = .error stop := by
  cases st <;> simp only [readWords, known, stops]

/-- A flag that takes the next word. -/
theorem readWords_taking (known : o.setting = some s) {head : Word} (more : List Word)
    (takes : i.take s o (some head) = .ok (values, true)) :
    i.readWords st (.flag w o :: head :: more) =
      (i.readWords st.afterFlag more).map (Given.before values) := by
  cases st <;> simp only [readWords, known, List.head?_cons, takes]

/-- A flag that takes no other word. -/
theorem readWords_leaving (known : o.setting = some s) {rest : List Word} {took : Bool}
    (takes : i.take s o rest.head? = .ok (values, took)) (alone : took = true → rest = []) :
    i.readWords st (.flag w o :: rest) = (i.readWords st.afterFlag rest).map (Given.before values) := by
  cases took with
  | false => cases st <;> simp only [readWords, known, takes]
  | true =>
      cases alone rfl
      cases st <;> simp only [readWords, known, takes]

end Steps

end Interface

/-! ### Settings with other defaults -/

section Settings

variable {f : Setting → Setting} (keeps : Keeps f)

include keeps

theorem Keeps.takesValue (s : Setting) : (f s).takesValue = s.takesValue := by
  unfold Setting.takesValue
  rw [keeps.action]

theorem Keeps.misuse (s : Setting) (complaint : String) : (f s).misuse complaint = s.misuse complaint := by
  unfold Setting.misuse Setting.title
  rw [keeps.flags]

theorem Keeps.refuseValue (s : Setting) (cs : List Char) :
    Interface.refuseValue (f s) cs = Interface.refuseValue s cs := by
  unfold Interface.refuseValue
  rw [keeps.misuse]

theorem Keeps.valueOf (s : Setting) (text : String) : (f s).valueOf text = s.valueOf text := by
  unfold Setting.valueOf
  simp only [keeps.action, keeps.misuse]

theorem Keeps.switched (s : Setting) : (f s).switched = s.switched := by
  unfold Setting.switched
  simp only [keeps.action, keeps.misuse, keeps.key]

theorem Keeps.switchedAll (ss : List Setting) : switchedAll (ss.map f) = switchedAll ss := by
  induction ss with
  | nil => rfl
  | cons s ss ih => rw [List.map_cons, CommandLine.switchedAll, CommandLine.switchedAll, keeps.switched, ih]

end Settings

namespace Interface

section Map

variable {f : Setting → Setting} (keeps : Keeps f) (i : Interface)

include keeps

/-! ### Flags and words -/

theorem flags_map : (i.map f).flags = i.flags.map fun e => (e.1, f e.2) := by
  unfold flags Interface.map
  rw [List.flatMap_map, List.map_flatMap]
  congr 1
  funext s
  rw [keeps.flags, List.map_map]
  rfl

theorem setting?_map (flag : String) : (i.map f).setting? flag = (i.setting? flag).map f := by
  unfold setting?
  rw [flags_map keeps]
  induction i.flags with
  | nil => rfl
  | cons e es ih =>
      rw [List.map_cons, List.lookup_cons, List.lookup_cons]
      cases flag == e.1
      · exact ih
      · rfl

theorem candidates_map (word : List Char) :
    (i.map f).candidates word = (i.candidates word).map (Occurrence.map f) := by
  unfold candidates
  split
  · rename_i tail
    obtain ⟨front, value⟩ := splitValue ('-' :: '-' :: tail)
    dsimp only
    rw [flags_map keeps, List.filterMap_map, List.map_filterMap]
    congr 1
    funext ⟨flag, s⟩
    dsimp only [Function.comp_apply]
    split <;> rfl
  · rw [flags_map keeps, List.filterMap_map, List.map_filterMap]
    congr 1
    funext ⟨flag, s⟩
    dsimp only [Function.comp_apply]
    split
    · rfl
    · split <;> rfl
  · rfl

theorem classifyRest_map (word : String) :
    (i.map f).classifyRest word = (i.classifyRest word).map (Word.map f) := by
  have numbers : ((i.map f).flags.any fun e => isNegativeNumber e.1.toList) =
      i.flags.any fun e => isNegativeNumber e.1.toList := by
    rw [flags_map keeps, List.any_map]
    rfl
  have flagNames : ∀ os : List Occurrence, (os.map (Occurrence.map f)).map Occurrence.flag =
      os.map Occurrence.flag := by
    intro os
    rw [List.map_map]
    rfl
  unfold classifyRest
  dsimp only
  rw [candidates_map keeps, numbers]
  rcases i.candidates word.toList with _ | ⟨o, _ | ⟨o', os⟩⟩
  · simp only [List.map_nil]
    split
    · rfl
    · split <;> rfl
  · rfl
  · have same := flagNames (o :: o' :: os)
    simp only [List.map_cons] at same ⊢
    rw [same]
    rfl

theorem classify_map (word : String) : (i.map f).classify word = (i.classify word).map (Word.map f) := by
  unfold classify
  split
  · rw [setting?_map keeps]
    cases i.setting? word with
    | some s => rfl
    | none =>
        dsimp only [Option.map_none]
        split
        · rfl
        · rw [setting?_map keeps]
          cases (splitValue word.toList).2 with
          | none => exact classifyRest_map keeps i word
          | some v =>
              cases i.setting? (String.ofList (splitValue word.toList).1) with
              | none => exact classifyRest_map keeps i word
              | some s => rfl
  · rfl

theorem classifyAll_map (argv : List String) :
    (i.map f).classifyAll argv = (i.classifyAll argv).map (List.map (Word.map f)) := by
  induction argv with
  | nil => rfl
  | cons w rest ih =>
      by_cases divider : w = "--"
      · subst divider
        simp only [classifyAll, Except.map, List.map_cons, List.map_map]
        rfl
      · rw [classifyAll.eq_3 _ _ _ divider, classifyAll.eq_3 _ _ _ divider, classify_map keeps, ih]
        cases i.classify w with
        | error stop => rfl
        | ok word => cases i.classifyAll rest <;> rfl

/-! ### What is given -/

omit keeps in
/-- The settings that a word concerns, after a change. -/
def mapConcerned (f : Setting → Setting) (c : List Setting × Setting × Option String) :
    List Setting × Setting × Option String := (c.1.map f, f c.2.1, c.2.2)

theorem cluster_map (s : Setting) (flag : String) (cs : List Char) :
    (i.map f).cluster (f s) flag cs = (i.cluster s flag cs).map (mapConcerned f) := by
  induction cs generalizing s flag with
  | nil =>
      unfold cluster
      rw [keeps.takesValue, keeps.refuseValue]
      split <;> rfl
  | cons c rest ih =>
      unfold cluster
      dsimp only
      rw [keeps.takesValue, keeps.refuseValue, setting?_map keeps]
      split
      · rfl
      · split
        · rfl
        · cases i.setting? (String.ofList ['-', c]) with
          | none => rfl
          | some t =>
              dsimp only [Option.map_some]
              split
              · rfl
              · rw [ih]
                cases i.cluster t (String.ofList ['-', c]) rest <;> rfl

theorem expand_map (s : Setting) (o : Occurrence) :
    (i.map f).expand (f s) (o.map f) = (i.expand s o).map (mapConcerned f) := by
  unfold expand Occurrence.map
  dsimp only
  cases o.attached with
  | none => rfl
  | some v => exact cluster_map keeps i s o.flag v.toList

theorem take_map (s : Setting) (o : Occurrence) (next : Option Word) :
    (i.map f).take (f s) (o.map f) (next.map (Word.map f)) = i.take s o next := by
  unfold take
  rw [expand_map keeps]
  cases i.expand s o with
  | error stop => rfl
  | ok concerned =>
      obtain ⟨before, last, attached⟩ := concerned
      simp only [Except.map, mapConcerned, bind, Except.bind, keeps.takesValue, keeps.switchedAll,
        keeps.valueOf, keeps.key, keeps.misuse]
      have all : switchedAll (before.map f ++ [f last]) = switchedAll (before ++ [last]) := by
        rw [← keeps.switchedAll (before ++ [last]), List.map_append]
        rfl
      rw [all]
      cases attached with
      | some v => rfl
      | none =>
          rcases next with _ | w
          · rfl
          · cases w <;> rfl

omit keeps in
theorem afterDivider_map (rest : List Word) (st : OperandState) :
    (i.map f).afterDivider (rest.map (Word.map f)) st = i.afterDivider rest st := by
  have texts : (rest.map (Word.map f)).map Word.text = rest.map Word.text := by
    rw [List.map_map]
    exact List.map_congr_left fun w _ => Word.text_map f w
  cases st with
  | expected =>
      cases rest with
      | nil => rfl
      | cons w more =>
          rw [List.map_cons, List.map_cons, List.map_cons, List.cons.injEq] at texts
          simp only [afterDivider, List.map_cons, texts.1, texts.2]
          rfl
  | justTaken => simp only [afterDivider, texts]
  | settled => simp only [afterDivider, texts]

/-- Words with changed settings give what they gave before. -/
theorem readWords_map (st : OperandState) (words : List Word) :
    (i.map f).readWords st (words.map (Word.map f)) = i.readWords st words := by
  have taken : ∀ {s : Setting} {o : Occurrence} {rest : List Word} {result : Except Stop (Fields × Bool)},
      i.take s o rest.head? = result →
        (i.map f).take (f s) (o.map f) (rest.map (Word.map f)).head? = result := by
    intro s o rest result takes
    rw [List.head?_map, take_map keeps, takes]
  have mapped : ∀ {o : Occurrence} {s : Option Setting}, o.setting = s →
      (o.map f).setting = s.map f := by
    rintro o s rfl
    rfl
  induction st, words using readWords.induct (i := i) with
  | case1 => rfl
  | case2 st settled => rw [List.map_nil, readWords.eq_2 _ _ settled, readWords.eq_2 _ _ settled]
  | case3 st rest =>
      have divider : Word.divider.map f = .divider := rfl
      rw [List.map_cons, divider, readWords_divider, readWords_divider, afterDivider_map]
  | case4 w rest ih => exact congrArg (Except.map (i.presentOperand w)) ih
  | case5 st w rest settled ih =>
      cases st with
      | expected => exact absurd rfl settled
      | justTaken | settled => exact congrArg (Except.map (Given.surplusWord w)) ih
  | case6 st w o rest unknown ih =>
      rw [List.map_cons, Word.map, readWords_unknown _ _ _ (mapped unknown), readWords_unknown _ _ _ unknown,
        ih]
  | case7 st w o rest s known stop stops =>
      rw [List.map_cons, Word.map, readWords_refused _ _ _ (mapped known) (taken stops),
        readWords_refused _ _ _ known stops]
  | case8 st w o s known values head more takes ih =>
      have same := taken takes
      rw [List.map_cons, List.map_cons, Word.map, readWords_taking _ _ _ (mapped known) _ same,
        readWords_taking _ _ _ known _ takes, ih]
  | case9 st w o s known values took rest alone takes ih =>
      have last : took = true → rest = [] := by
        intro took
        cases rest with
        | nil => rfl
        | cons head more => exact (alone head more rfl took).elim
      rw [List.map_cons, Word.map, readWords_leaving _ _ _ (mapped known) (taken takes),
        readWords_leaving _ _ _ known takes last, ih]
      intro took
      rw [last took, List.map_nil]

/-- What a command line gives does not depend on the defaults. -/
theorem read_map (argv : List String) : (i.map f).read argv = i.read argv := by
  unfold read
  rw [classifyAll_map keeps]
  cases i.classifyAll argv with
  | error stop => rfl
  | ok words => exact readWords_map keeps i _ words

end Map

/-! ### Environments -/

/-- The environment concerns the defaults only. -/
theorem keeps_fromEnvironment (env : Environment) : Keeps fun s => (s.fromEnvironment env).1 := by
  have kept : ∀ s : Setting, ∃ d, (s.fromEnvironment env).1 = { s with default := d } := by
    intro s
    unfold Setting.fromEnvironment
    dsimp only
    split
    · exact ⟨s.default, rfl⟩
    · exact ⟨s.default, rfl⟩
    · exact ⟨_, rfl⟩
    · split
      · exact ⟨_, rfl⟩
      · exact ⟨s.default, rfl⟩
  constructor
  all_goals
    intro s
    obtain ⟨d, same⟩ := kept s
    rw [same]

/-- A command line gives the same in every environment. -/
theorem read_withEnvironment (i : Interface) (env : Environment) (argv : List String) :
    (i.withEnvironment env).read argv = i.read argv :=
  read_map (keeps_fromEnvironment env) i argv

/-- The environment comes in only after the command line is read. -/
theorem parse_eq (i : Interface) (env : Environment) (argv : List String) :
    i.parse env argv = i.read argv >>= (i.withEnvironment env).complete := by
  unfold parse
  dsimp only
  rw [read_withEnvironment]

end Interface

/-! ### The values of settings -/

/-- Whether a setting announces something. -/
def Setting.announces (s : Setting) : Bool :=
  match s.action with
  | .announce _ => true
  | _ => false

/-- A setting that announces something has no value; every other one has one. -/
theorem completeAll_cons (g : Given) (s : Setting) (ss : List Setting) :
    completeAll g (s :: ss) = if s.announces then completeAll g ss else do
      let d ← s.valueIn g
      return (s.key, d) :: (← completeAll g ss) := by
  have step : completeAll g (s :: ss) = match s.action with
      | .announce _ => completeAll g ss
      | _ => do
        let d ← s.valueIn g
        return (s.key, d) :: (← completeAll g ss) := rfl
  rw [step]
  unfold Setting.announces
  cases s.action <;> rfl

end Unmark.CommandLine
