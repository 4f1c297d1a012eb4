import Mathlib.Logic.Basic
import Mathlib.Tactic.SplitIfs
import Unmark.Package.Installation

/-
Module: Unmark.Proofs.DependencyReport
Layer: Proofs
Purpose: What a guarded converter does about its dependencies. It promises to make its value exactly when all
  of them are satisfied, and otherwise to tell those that fail, all of them and no others, in the order in
  which they are listed: as missing where the module is not there, as mismatched otherwise. It keeps the
  promise exactly when no dependency is hindered; the first one that is ends the look at them. One dependency
  that is looked at adds what is wrong with it at the end; from there the report on a list follows by
  induction.
Main exports: Installation.Satisfies, Installation.Hinders, Installation.foldlM_examine,
  Installation.guarded_eq_promised_iff
-/

namespace Unmark.Package

namespace Installation

variable (i : Installation)

/-- A distribution records a version that a requirement asks for. -/
def Meets (name requirement : String) : Prop :=
  ∃ text ∈ i.version? name, ∃ version ∈ Version.ofString? text, ∃ r ∈ Requirement.ofString? requirement,
    r.admits version = true

instance (name requirement : String) : Decidable (i.Meets name requirement) :=
  inferInstanceAs (Decidable (∃ text ∈ _, ∃ version ∈ _, ∃ r ∈ _, _))

/-- A dependency is satisfied: its module is there, and a version that is recorded meets what is asked. -/
def Satisfies (d : Dependency) : Prop :=
  i.provides d.module = true ∧ (d.requirement ≠ "" → i.Meets d.distribution d.requirement)

instance (d : Dependency) : Decidable (i.Satisfies d) := inferInstanceAs (Decidable (_ ∧ (_ → _)))

/-- A dependency can be looked at no further, for a name that stands for nothing or for a recorded version
    that is none. The version is only read where a requirement that can be read asks for one. -/
inductive Hinders (d : Dependency) : Obstacle → Prop
  | module (nameless : d.module = "") : Hinders d .namelessModule
  | relative (dot : d.module.toList.head? = some '.') : Hinders d (.relativeModule d.module)
  | distribution (there : i.loads d.module = .ok true) (asked : d.requirement ≠ "")
      (nameless : d.distribution = "") : Hinders d .namelessDistribution
  | version {text : String} {r : Requirement} (there : i.loads d.module = .ok true)
      (asked : d.requirement ≠ "") (recorded : i.recorded d.distribution = .ok (some text))
      (filled : text ≠ "") (asks : Requirement.ofString? d.requirement = some r)
      (unread : Version.ofString? text = none) : Hinders d (.noVersion text)

/-- Nothing stands in the way of looking at a dependency. -/
def Clear (d : Dependency) : Prop := ∀ o, ¬ i.Hinders d o

/-- The version that a report gives for a distribution. -/
def reportedVersion (name : String) : String := ((i.version? name).filter (· ≠ "")).getD "unknown"

/-! ### One dependency -/

section One

variable {i} {d : Dependency} {s : Shortfall} {o : Obstacle}

theorem loads_eq_ok {module : String} {there : Bool} (loads : i.loads module = .ok there) :
    i.provides module = there := by
  unfold Installation.loads at loads
  split_ifs at loads
  exact Except.ok.inj loads

theorem loads_of_provides {module : String} (named : module ≠ "") (own : module.toList.head? ≠ some '.')
    (there : i.provides module = true) : i.loads module = .ok true := by
  rw [Installation.loads, if_neg named, if_neg own, there]

/-- Whether a module can be loaded is known unless its name stands in the way. -/
theorem loads_eq_error_iff {module : String} : i.loads module = .error o ↔
    module = "" ∧ o = .namelessModule ∨
      module.toList.head? = some '.' ∧ o = .relativeModule module := by
  unfold Installation.loads
  by_cases nameless : module = ""
  · subst nameless
    simp [eq_comm]
  · by_cases dot : module.toList.head? = some '.' <;> simp [nameless, dot, eq_comm]

theorem recorded_of_named {name : String} (named : name ≠ "") : i.recorded name = .ok (i.version? name) := by
  rw [Installation.recorded, if_neg named]

theorem recorded_eq_ok {name : String} {text? : Option String} (recorded : i.recorded name = .ok text?) :
    i.version? name = text? := by
  unfold Installation.recorded at recorded
  split_ifs at recorded
  exact Except.ok.inj recorded

/-- Checking a version fails for a distribution without a name, or for a version that is none. -/
theorem check_eq_error_iff {name requirement : String} : i.check name requirement = .error o ↔
    name = "" ∧ o = .namelessDistribution ∨
      ∃ text r, i.recorded name = .ok (some text) ∧ text ≠ "" ∧
        Requirement.ofString? requirement = some r ∧ Version.ofString? text = none ∧ o = .noVersion text := by
  unfold check
  cases recorded : i.recorded name with
  | error o' =>
      have nameless : name = "" ∧ o' = .namelessDistribution := by
        unfold Installation.recorded at recorded
        split_ifs at recorded with nameless
        exact ⟨nameless, (Except.error.inj recorded).symm⟩
      obtain ⟨rfl, rfl⟩ := nameless
      simp [eq_comm]
  | ok text? =>
      have named : name ≠ "" := by
        rintro rfl
        cases recorded
      cases text? with
      | none => simp [named]
      | some text =>
          by_cases filled : text = ""
          · subst filled
            simp [named]
          · cases asks : Requirement.ofString? requirement with
            | none => simp [named]
            | some r => cases unread : Version.ofString? text <;> simp [named, filled, unread, eq_comm]

/-- Looking at a dependency fails exactly with what hinders it. -/
theorem examine_eq_error_iff : i.examine s d = .error o ↔ i.Hinders d o := by
  unfold examine
  constructor
  · intro failed
    cases loads : i.loads d.module with
    | error o' =>
        rw [loads] at failed
        cases failed
        rcases loads_eq_error_iff.1 loads with ⟨nameless, rfl⟩ | ⟨dot, rfl⟩
        · exact .module nameless
        · exact .relative dot
    | ok there =>
        rw [loads] at failed
        cases there with
        | false => cases failed
        | true =>
            dsimp only at failed
            split_ifs at failed with any
            cases checked : i.check d.distribution d.requirement with
            | error o' =>
                rw [checked] at failed
                cases failed
                rcases check_eq_error_iff.1 checked with
                  ⟨nameless, rfl⟩ | ⟨text, r, recorded, filled, asks, unread, rfl⟩
                · exact .distribution loads any nameless
                · exact .version loads any recorded filled asks unread
            | ok result =>
                obtain ⟨met, installed⟩ := result
                rw [checked] at failed
                cases met <;> cases failed
  · intro hinders
    have looked (there : i.loads d.module = .ok true) (asked : d.requirement ≠ "")
        (stops : i.check d.distribution d.requirement = .error o) : i.examine s d = .error o := by
      unfold examine
      rw [there]
      dsimp only
      rw [if_neg asked, stops]
    cases hinders with
    | module nameless =>
        rw [loads_eq_error_iff.2 (.inl ⟨nameless, rfl⟩)]
    | relative dot =>
        rw [loads_eq_error_iff.2 (.inr ⟨dot, rfl⟩)]
    | distribution there asked nameless =>
        exact looked there asked (check_eq_error_iff.2 (.inl ⟨nameless, rfl⟩))
    | version there asked recorded filled asks unread =>
        exact looked there asked
          (check_eq_error_iff.2 (.inr ⟨_, _, recorded, filled, asks, unread, rfl⟩))

/-- A dependency is hindered by one thing at most: looking at it fails with that. -/
theorem Hinders.unique {o' : Obstacle} (one : i.Hinders d o) (two : i.Hinders d o') : o = o' := by
  have first := examine_eq_error_iff (s := {}).2 one
  exact Except.error.inj (first.symm.trans (examine_eq_error_iff.2 two))

/-- What checking a version comes to: whether the version meets the requirement, and the version for the
    report. -/
theorem check_eq_ok {name requirement : String} {met : Bool} {installed : Option String}
    (checked : i.check name requirement = .ok (met, installed)) :
    (met = true ↔ i.Meets name requirement) ∧ installed.getD "unknown" = i.reportedVersion name := by
  have empty : Version.ofString? "" = none := by decide
  unfold check at checked
  unfold reportedVersion Meets
  cases recorded : i.recorded name with
  | error o =>
      rw [recorded] at checked
      cases checked
  | ok text? =>
      rw [recorded] at checked
      rw [recorded_eq_ok recorded]
      cases text? with
      | none =>
          cases checked
          simp
      | some text =>
          by_cases filled : text = ""
          · subst filled
            cases checked
            constructor
            · simp [empty]
            · rfl
          · rw [Option.filter_some, if_pos (decide_eq_true filled)]
            cases asks : Requirement.ofString? requirement with
            | none =>
                simp only [asks] at checked
                cases checked
                simp
            | some r =>
                cases read : Version.ofString? text with
                | none =>
                    simp only [asks, read] at checked
                    cases checked
                | some v =>
                    simp only [asks, read] at checked
                    cases checked
                    simp [read]

theorem examine_of_missing (loads : i.loads d.module = .ok false) : i.examine s d =
    .ok ⟨s.missing ++ [d], s.mismatched, s.firstModule.or (some d.module)⟩ := by
  rw [examine, loads]

/-- A clear dependency whose module is there adds nothing if it is satisfied, and itself otherwise. -/
theorem examine_of_loads (clear : i.Clear d) (loads : i.loads d.module = .ok true) : i.examine s d =
    .ok (if i.Satisfies d then s
      else ⟨s.missing, s.mismatched ++ [(d, i.reportedVersion d.distribution)], s.firstModule⟩) := by
  have present := loads_eq_ok loads
  by_cases any : d.requirement = ""
  · have satisfied : i.Satisfies d := ⟨present, fun asked => absurd any asked⟩
    rw [examine, loads]
    dsimp only
    rw [if_pos any, if_pos satisfied]
  · cases checked : i.check d.distribution d.requirement with
    | error o =>
        have fails : i.examine s d = .error o := by
          rw [examine, loads]
          dsimp only
          rw [if_neg any, checked]
        exact absurd (examine_eq_error_iff.1 fails) (clear o)
    | ok result =>
        obtain ⟨met, installed⟩ := result
        obtain ⟨meets, reported⟩ := check_eq_ok checked
        have satisfied : i.Satisfies d ↔ met = true := by
          rw [meets, Satisfies]
          exact ⟨fun both => both.2 any, fun meets => ⟨present, fun _ => meets⟩⟩
        rw [examine, loads]
        dsimp only
        rw [if_neg any, checked, ← reported]
        cases met with
        | true => rw [if_pos (satisfied.2 rfl)]
        | false => rw [if_neg fun yes => Bool.false_ne_true (satisfied.1 yes)]

end One

/-! ### Lists of dependencies -/

/-- The dependencies of a list that fail. -/
def failing (ds : List Dependency) : List Dependency := ds.filter fun d => !decide (i.Satisfies d)

/-- Those of them whose modules are not there. -/
def missingOf (ds : List Dependency) : List Dependency :=
  (i.failing ds).filter fun d => !i.provides d.module

/-- Those of them whose modules are there, each with the version that is reported. -/
def mismatchedOf (ds : List Dependency) : List (Dependency × String) :=
  ((i.failing ds).filter fun d => i.provides d.module).map fun d => (d, i.reportedVersion d.distribution)

/-- What a list of dependencies lacks, as a report tells it. -/
def lacking (ds : List Dependency) : Shortfall :=
  ⟨i.missingOf ds, i.mismatchedOf ds, (i.missingOf ds).head?.map Dependency.module⟩

theorem failing_cons_of_satisfies {d : Dependency} (satisfied : i.Satisfies d) (ds : List Dependency) :
    i.failing (d :: ds) = i.failing ds := by
  simp [failing, satisfied]

theorem failing_cons_of_not {d : Dependency} (fails : ¬ i.Satisfies d) (ds : List Dependency) :
    i.failing (d :: ds) = d :: i.failing ds := by
  simp [failing, fails]

/-- Each clear dependency that is looked at adds its part at the end of what was found before. -/
theorem foldlM_examine {ds : List Dependency} (clear : ∀ d ∈ ds, i.Clear d) (s : Shortfall) :
    ds.foldlM i.examine s =
      .ok ⟨s.missing ++ i.missingOf ds, s.mismatched ++ i.mismatchedOf ds,
        s.firstModule.or ((i.missingOf ds).head?.map Dependency.module)⟩ := by
  induction ds generalizing s with
  | nil => simp [missingOf, mismatchedOf, failing, pure, Except.pure]
  | cons d ds ih =>
      have here := clear d List.mem_cons_self
      have later := ih fun e mem => clear e (List.mem_cons_of_mem d mem)
      rw [List.foldlM_cons]
      cases loads : i.loads d.module with
      | error o =>
          have fails : i.examine s d = .error o := by rw [examine, loads]
          exact absurd (examine_eq_error_iff.1 fails) (here o)
      | ok there =>
          have present := loads_eq_ok loads
          cases there with
          | false =>
              have fails : ¬ i.Satisfies d := by
                rw [Satisfies, present]
                exact fun satisfied => Bool.false_ne_true satisfied.1
              rw [examine_of_missing loads]
              change ds.foldlM i.examine _ = _
              simp [later, missingOf, mismatchedOf, failing_cons_of_not i fails, present]
          | true =>
              rw [examine_of_loads here loads]
              change ds.foldlM i.examine _ = _
              by_cases satisfied : i.Satisfies d
              · simp [later, satisfied, missingOf, mismatchedOf, failing_cons_of_satisfies i satisfied]
              · simp [later, satisfied, missingOf, mismatchedOf, failing_cons_of_not i satisfied, present]

theorem shortfall_eq {ds : List Dependency} (clear : ∀ d ∈ ds, i.Clear d) :
    i.shortfall ds = .ok (i.lacking ds) := by
  rw [shortfall, i.foldlM_examine clear]
  rfl

/-- The first dependency that is hindered ends the look at all. -/
theorem shortfall_of_hinders {front back : List Dependency} {d : Dependency} {o : Obstacle}
    (clear : ∀ e ∈ front, i.Clear e) (hinders : i.Hinders d o) :
    i.shortfall (front ++ d :: back) = .error o := by
  rw [shortfall, List.foldlM_append, i.foldlM_examine clear]
  change (d :: back).foldlM i.examine _ = _
  rw [List.foldlM_cons, examine_eq_error_iff.2 hinders]
  rfl

/-- A list of dependencies is clear, or one of them is the first that is hindered. -/
theorem clear_or_hindered (ds : List Dependency) : (∀ d ∈ ds, i.Clear d) ∨
    ∃ front d back o, ds = front ++ d :: back ∧ (∀ e ∈ front, i.Clear e) ∧ i.Hinders d o := by
  induction ds with
  | nil => exact .inl (List.forall_mem_nil _)
  | cons d ds ih =>
      by_cases here : i.Clear d
      · rcases ih with clear | ⟨front, e, back, o, rfl, clear, hinders⟩
        · exact .inl (List.forall_mem_cons.2 ⟨here, clear⟩)
        · exact .inr ⟨d :: front, e, back, o, rfl, List.forall_mem_cons.2 ⟨here, clear⟩, hinders⟩
      · obtain ⟨o, hinders⟩ := not_forall_not.1 here
        exact .inr ⟨[], d, ds, o, rfl, List.forall_mem_nil _, hinders⟩

/-! ### The promise -/

/-- A dependency that fails is missing or mismatched, and none that is satisfied is either. -/
theorem nothing_lacks_iff (ds : List Dependency) :
    ((i.missingOf ds).isEmpty && (i.mismatchedOf ds).isEmpty) = true ↔ ∀ d ∈ ds, i.Satisfies d := by
  have failing_nil : i.failing ds = [] ↔ ∀ d ∈ ds, i.Satisfies d := by
    simp [failing, List.filter_eq_nil_iff]
  rw [← failing_nil, Bool.and_eq_true, List.isEmpty_iff, List.isEmpty_iff, missingOf, mismatchedOf,
    List.map_eq_nil_iff, List.filter_eq_nil_iff, List.filter_eq_nil_iff]
  constructor
  · rintro ⟨present, absent⟩
    refine List.eq_nil_iff_forall_not_mem.2 fun d mem => ?_
    have provided := present d mem
    rw [Bool.not_eq_true', Bool.not_eq_false] at provided
    exact absent d mem provided
  · intro none
    rw [none]
    exact ⟨List.forall_mem_nil _, List.forall_mem_nil _⟩

/-- What a guarded converter promises: to apply its method to what it is given if all dependencies are
    satisfied, and otherwise to tell in the order of the list all that fail and no others, as missing if the
    module is not there and as mismatched otherwise. The first module that is not there is the cause. -/
def promised {α : Type} (converter : String) (ds : List Dependency) (value : Unit → α) : Except Failure α :=
  if ∀ d ∈ ds, i.Satisfies d then .ok (value ())
  else .error (.fault (.dependency converter ((i.missingOf ds).map fun d => (d.distribution, d.requirement))
    ((i.mismatchedOf ds).map fun (d, version) => (d.distribution, d.requirement, version)) none
    ((i.missingOf ds).head?.map fun _ => .missingModule)))

theorem guarded_of_clear {α : Type} (converter : String) {ds : List Dependency}
    (clear : ∀ d ∈ ds, i.Clear d) (value : Unit → α) :
    i.guarded converter ds value = i.promised converter ds value := by
  rw [guarded, i.shortfall_eq clear, promised]
  dsimp only [lacking]
  by_cases all : ∀ d ∈ ds, i.Satisfies d
  · rw [if_pos ((i.nothing_lacks_iff ds).2 all), if_pos all]
  · rw [if_neg fun empty => all ((i.nothing_lacks_iff ds).1 empty), if_neg all, fault, Option.map_map]
    rfl

theorem guarded_of_hinders {α : Type} (converter : String) {front : List Dependency} (back : List Dependency)
    {d : Dependency} {o : Obstacle} (clear : ∀ e ∈ front, i.Clear e) (hinders : i.Hinders d o) (value : Unit → α) :
    i.guarded converter (front ++ d :: back) value = .error o.failure := by
  rw [guarded, i.shortfall_of_hinders clear hinders]

/-- A promise is kept by a value or by a fault, and an obstacle is neither. -/
theorem promised_ne_failure {α : Type} (converter : String) (ds : List Dependency) (value : Unit → α)
    (o : Obstacle) : i.promised converter ds value ≠ .error o.failure := by
  unfold promised
  split
  · nofun
  · cases o <;> nofun

/-- A guarded converter keeps its promise exactly if no dependency is hindered, whatever its method is. The
    first dependency that is hindered ends the call with a failure that is no fault about dependencies. -/
theorem guarded_eq_promised_iff {α β : Type} (converter : String) (ds : List Dependency) (method : β → α)
    (arguments : β) :
    (i.guarded converter ds (fun _ => method arguments) =
        i.promised converter ds (fun _ => method arguments) ↔ ∀ d ∈ ds, i.Clear d) ∧
    ((∀ d ∈ ds, i.Clear d) → i.shortfall ds = .ok (i.lacking ds)) ∧
    ∀ front d back o, ds = front ++ d :: back → (∀ e ∈ front, i.Clear e) → i.Hinders d o →
      i.guarded converter ds (fun _ => method arguments) = .error o.failure := by
  refine ⟨⟨fun kept => ?_, fun clear => i.guarded_of_clear converter clear _⟩, i.shortfall_eq, ?_⟩
  · rcases i.clear_or_hindered ds with clear | ⟨front, d, back, o, rfl, clear, hinders⟩
    · exact clear
    · have stops := i.guarded_of_hinders converter back clear hinders fun _ => method arguments
      exact absurd (kept.symm.trans stops) (i.promised_ne_failure converter _ _ o)
  · rintro front d back o rfl clear hinders
    exact i.guarded_of_hinders converter back clear hinders _

/-- A distribution without a name, and one that records no version, are neither satisfied nor told as
    mismatched: looking at them ends the call. -/
theorem guarded_ne_promised :
    let nameless : Dependency := ⟨"", "mistune", ">=1"⟩
    let debian : Dependency := ⟨"debian", "debian", ">=1"⟩
    let records : Installation := ⟨[("debian", "0.23ubuntu1")], ["debian"]⟩
    usual.guarded "md" [nameless] (fun _ => "ran") = .error (.plain .value "A distribution name is required.") ∧
    usual.promised "md" [nameless] (fun _ => "ran") =
      .error (.fault (.dependency "md" [] [("", ">=1", "unknown")] none none)) ∧
    records.guarded "md" [debian] (fun _ => "ran") =
      .error (.plain .version "Invalid version: '0.23ubuntu1'") ∧
    records.promised "md" [debian] (fun _ => "ran") =
      .error (.fault (.dependency "md" [] [("debian", ">=1", "0.23ubuntu1")] none none)) := by
  intro nameless debian records
  have asks : Requirement.ofString? ">=1" = some [.version .atLeast ⟨0, [1], none, none, none, []⟩] := by
    decide +kernel
  have unnamed : usual.Hinders nameless .namelessDistribution :=
    .distribution (loads_of_provides (by decide) (by decide) (by decide +kernel)) (by decide) rfl
  have version : records.version? "debian" = some "0.23ubuntu1" := by decide +kernel
  have recorded : records.recorded "debian" = .ok (some "0.23ubuntu1") := by
    rw [recorded_of_named (by decide), version]
  have unread : records.Hinders debian (.noVersion "0.23ubuntu1") :=
    .version (loads_of_provides (by decide) (by decide) (by decide +kernel)) (by decide) recorded (by decide)
      asks (by decide +kernel)
  have promises (i : Installation) (d : Dependency) (version : String) (fails : ¬ i.Satisfies d)
      (lacks : i.missingOf [d] = [] ∧ i.mismatchedOf [d] = [(d, version)]) :
      i.promised "md" [d] (fun _ => "ran") =
        .error (.fault (.dependency "md" [] [(d.distribution, d.requirement, version)] none none)) := by
    rw [promised, if_neg fun all => fails (all d List.mem_cons_self), lacks.1, lacks.2]
    rfl
  have said : (Obstacle.noVersion "0.23ubuntu1").failure =
      .plain .version "Invalid version: '0.23ubuntu1'" := by decide +kernel
  rw [← said]
  exact ⟨usual.guarded_of_hinders "md" [] (List.forall_mem_nil _) unnamed _,
    promises _ _ _ (by decide +kernel) (by decide +kernel),
    records.guarded_of_hinders "md" [] (List.forall_mem_nil _) unread _,
    promises _ _ _ (by decide +kernel) (by decide +kernel)⟩

/-- A module that is not there, an old version, a requirement that cannot be read, and a module of no
    distribution, among others that will do. -/
example :
    let html : Dependency := ⟨"html5lib", "html5lib", ""⟩
    let yaml : Dependency := ⟨"PyYAML", "yaml", ">=7"⟩
    let rich : Dependency := ⟨"rich", "rich", "new"⟩
    let other : Dependency := ⟨"other", "packaging", ">=1"⟩
    (usual.shortfall [html, ⟨"mistune", "mistune", ">=3.0"⟩, yaml, rich, ⟨"rich", "rich", ""⟩, other]).toOption =
      some ⟨[html], [(yaml, "6.0.3"), (rich, "15.0.0"), (other, "unknown")], some "html5lib"⟩ := by
  decide +kernel

end Installation

end Unmark.Package
