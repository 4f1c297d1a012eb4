import Unmark.Proofs.NamedValues
import Unmark.Proofs.ReadingDefaults

/-
Module: Unmark.Proofs.AttachedValue
Layer: Proofs
Purpose: A flag with its value attached by an equals sign, in front of a command line. In an interface whose
  flags are distinct and hold no equals sign, it is that very flag with that very value, whatever the value
  is; it takes no other word, and the rest of the command line gives what it gives by itself.
Main exports: Interface.Distinct, distinct_program, Interface.setting?_eq_some, Interface.read_attached,
  Interface.read_attached_refused
-/

namespace Unmark.CommandLine

/-! ### Interfaces whose names are distinct -/

/-- An interface in which no flag and no environment variable stands for two things: flags start with a
    hyphen and hold no equals sign, and the operand has a key of its own. -/
structure Interface.Distinct (i : Interface) : Prop where
  flags : (i.flags.map Prod.fst).Nodup
  hyphens : ∀ flag ∈ i.flags.map Prod.fst, flag.toList.head? = some '-' ∧ '=' ∉ flag.toList
  variableNames : (i.settings.map fun s => environmentKey s.key).Nodup
  operand : ∀ e ∈ i.operand, ∀ key ∈ i.settings.map Setting.key, e.1 ≠ key

theorem distinct_program : program.Distinct where
  flags := by decide +kernel
  hyphens := by decide +kernel
  variableNames := by decide +kernel
  operand := by decide +kernel

namespace Interface

variable {i : Interface}

/-- The setting of a flag is the one that has it. -/
theorem setting?_eq_some (distinct : i.Distinct) {s : Setting} (listed : s ∈ i.settings) {flag : String}
    (known : flag ∈ s.flags) : i.setting? flag = some s := by
  have mem : (flag, s) ∈ i.flags :=
    List.mem_flatMap.2 ⟨s, listed, List.mem_map.2 ⟨flag, known, rfl⟩⟩
  exact lookup_eq_some_of_mem distinct.flags mem

/-- A text with an equals sign in it is no flag in full. -/
theorem setting?_eq_none (distinct : i.Distinct) {word : String} (sign : '=' ∈ word.toList) :
    i.setting? word = none := by
  cases found : i.setting? word with
  | none => rfl
  | some s =>
      have known := List.mem_map_of_mem (f := Prod.fst) (mem_of_lookup_eq_some found)
      exact absurd sign (distinct.hyphens word known).2

/-! ### Classification -/

theorem splitValue_append {front : List Char} (clean : '=' ∉ front) (rest : List Char) :
    splitValue (front ++ '=' :: rest) = (front, some rest) := by
  have broken : Text.breakOn? ['='] (front ++ '=' :: rest) = some (front, rest) := by
    induction front with
    | nil => rfl
    | cons c front ih =>
        rw [List.mem_cons, not_or] at clean
        have other : Text.after? ['='] (c :: front ++ '=' :: rest) = none := by
          rw [List.cons_append, Text.after?, if_neg clean.1]
        rw [Text.breakOn?.eq_def, other]
        dsimp only [List.cons_append]
        rw [ih clean.2]
        rfl
  rw [splitValue, broken]

section Attached

variable (distinct : i.Distinct) {s : Setting} (listed : s ∈ i.settings) {flag : String}
  (known : flag ∈ s.flags) (v : String)

/-- A flag, an equals sign and a value. -/
def attach (flag v : String) : String := flag ++ "=" ++ v

theorem toList_attach (flag v : String) : (attach flag v).toList = flag.toList ++ '=' :: v.toList := by
  rw [attach, String.toList_append, String.toList_append, List.append_assoc]
  rfl

include distinct listed known

/-- A flag in full is that flag. -/
theorem classify_flag : i.classify flag = .ok (.flag flag ⟨some s, flag, none⟩) := by
  have here := setting?_eq_some distinct listed known
  have form := distinct.hyphens flag (List.mem_map_of_mem (mem_of_lookup_eq_some here))
  obtain ⟨tail, text⟩ := List.head?_eq_some_iff.1 form.1
  unfold classify
  rw [text, here]
  rfl

/-- A flag with a value is that flag with that value. -/
theorem classify_attach :
    i.classify (attach flag v) = .ok (.flag (attach flag v) ⟨some s, flag, some v⟩) := by
  have here := setting?_eq_some distinct listed known
  have form := distinct.hyphens flag (List.mem_map_of_mem (mem_of_lookup_eq_some here))
  obtain ⟨tail, flag_eq⟩ := List.head?_eq_some_iff.1 form.1
  have sign : '=' ∈ (attach flag v).toList := by simp [toList_attach]
  have whole := setting?_eq_none distinct sign
  have parts := splitValue_append form.2 v.toList
  rw [← toList_attach] at parts
  have text := toList_attach flag v
  rw [flag_eq, List.cons_append] at text
  have some_rest : (tail ++ '=' :: v.toList).isEmpty = false := by simp
  unfold classify
  rw [parts, text]
  simp only [whole, some_rest, String.ofList_toList, here, Bool.false_eq_true, if_false]

theorem classifyAll_attach (argv : List String) :
    i.classifyAll (attach flag v :: argv) =
      (i.classifyAll argv).map (Word.flag (attach flag v) ⟨some s, flag, some v⟩ :: ·) := by
  have no_divider : attach flag v ≠ "--" := by
    intro same
    have sign : '=' ∈ (attach flag v).toList := by simp [toList_attach]
    rw [same] at sign
    exact absurd sign (by decide)
  rw [classifyAll.eq_3 _ _ _ no_divider, classify_attach distinct listed known]
  cases i.classifyAll argv <;> rfl

/-! ### What it gives -/

omit distinct listed known in
/-- A flag that takes the attached value concerns no other setting. -/
theorem expand_attached (takes : s.takesValue = true) :
    i.expand s ⟨some s, flag, some v⟩ = .ok ([], s, some v) := by
  unfold expand
  dsimp only
  cases text : v.toList with
  | nil => rw [cluster, if_pos takes, ← String.ofList_toList (s := v), text]
  | cons c rest => rw [cluster, if_pos takes, ← text, String.ofList_toList]

omit distinct listed known in
theorem take_attached (takes : s.takesValue = true) (next : Option Word) :
    i.take s ⟨some s, flag, some v⟩ next = (s.valueOf v).map fun d => ([(s.key, d)], false) := by
  unfold take
  rw [expand_attached v takes]
  simp only [bind, Except.bind, takes, if_true]
  cases s.valueOf v <;> rfl

/-- A value that a setting accepts comes in front of what the rest of the command line gives. -/
theorem read_attached (takes : s.takesValue = true) {d : Data} (valued : s.valueOf v = .ok d)
    (argv : List String) :
    i.read (attach flag v :: argv) = (i.read argv).map (Given.before [(s.key, d)]) := by
  have state : ∀ b : Bool, (if b then OperandState.expected else .settled).afterFlag =
      if b then OperandState.expected else .settled := by
    intro b
    cases b <;> rfl
  unfold read
  rw [classifyAll_attach distinct listed known]
  cases i.classifyAll argv with
  | error stop => rfl
  | ok words =>
      have took : i.take s ⟨some s, flag, some v⟩ words.head? = .ok ([(s.key, d)], false) := by
        rw [take_attached v takes, valued]
        rfl
      have front := readWords_leaving i (if i.operand.isSome then .expected else .settled) (attach flag v)
        rfl took (fun took => by cases took)
      rw [state] at front
      exact front

/-- A value that a setting refuses stops the reading, if the words of the command line can be told apart. -/
theorem read_attached_refused (takes : s.takesValue = true) {stop : Stop} (refused : s.valueOf v = .error stop)
    {argv : List String} {g : Given} (readable : i.read argv = .ok g) :
    i.read (attach flag v :: argv) = .error stop := by
  unfold read at readable ⊢
  rw [classifyAll_attach distinct listed known]
  cases classified : i.classifyAll argv with
  | error stop' =>
      rw [classified] at readable
      cases readable
  | ok words =>
      have took : i.take s ⟨some s, flag, some v⟩ words.head? = .error stop := by
        rw [take_attached v takes, refused]
        rfl
      exact readWords_refused i _ (attach flag v) rfl took

end Attached

end Interface

end Unmark.CommandLine
