import Unmark.Failure
import Unmark.Proofs.JsonScalar
import Unmark.Proofs.LoadDefects

/-
Module: Unmark.Proofs.LoadOrder
Layer: Proofs
Purpose: Which defect a load reports when there are several. The checks of one object have a fixed order;
  some are made on entering it and some on leaving it, behind all of its children. This gives an order of
  all defects below a root (`LoadError.Before`), in which no two come before each other, also where objects
  contain themselves and the paths go on for ever. A load reports the first defect of this order, and the
  text of its path leads to one place only.
Main exports: pathText_injective, Defect.BeforeAt, LoadError.Before, Heap.Flaw, Heap.not_flaw_of_loadChild,
  Heap.loadChild_error_first, Heap.load_reports_first_flaw
-/

namespace Unmark

open Load

/-! ### The text of a path -/

/-- One step in the text of a path. -/
def stepText (i : Nat) : String := s!".children[{i}]"

theorem toList_stepText (i : Nat) :
    (stepText i).toList = ".children[".toList ++ (Nat.toDigits 10 i ++ [']']) := by
  unfold stepText
  rw [String.toList_append, String.toList_append, Nat.toString_eq_repr, Nat.toList_repr, List.append_assoc]
  rfl

theorem toList_pathText (path : List Nat) :
    (pathText path).toList = "root".toList ++ path.flatMap fun i => (stepText i).toList := by
  have whole : ∀ front : String, (path.foldl (fun text i => text ++ stepText i) front).toList
      = front.toList ++ path.flatMap fun i => (stepText i).toList := by
    induction path with
    | nil => simp
    | cons i path ih =>
        intro front
        rw [List.foldl_cons, ih, List.flatMap_cons, String.toList_append, List.append_assoc]
  exact whole "root"

/-- The text of a path is not empty: it starts at the root. -/
theorem pathText_ne_empty (steps : List Nat) : pathText steps ≠ "" := by
  intro empty
  have chars := congrArg String.toList empty
  rw [toList_pathText] at chars
  exact List.cons_ne_nil _ _ chars

/-- A step ends at its bracket, which is no digit. -/
theorem stepText_append_inj {i j : Nat} {rest rest' : List Char}
    (same : (stepText i).toList ++ rest = (stepText j).toList ++ rest') : i = j ∧ rest = rest' := by
  have digit : ∀ n, ∀ c ∈ Nat.toDigits 10 n, Json.isDigit c = true := fun _ _ => Json.isDigit_of_mem_toDigits
  have stops : ∀ r, ∀ c ∈ (']' :: r).head?, Json.isDigit c = false := by
    intro r c mem
    cases mem
    rfl
  rw [toList_stepText, toList_stepText, List.append_assoc, List.append_assoc, List.append_assoc,
    List.append_assoc] at same
  have tails := List.append_cancel_left same
  have front := congrArg (List.takeWhile Json.isDigit) tails
  rw [List.singleton_append, List.singleton_append, Json.takeWhile_append_of_stops (digit i) (stops rest),
    Json.takeWhile_append_of_stops (digit j) (stops rest')] at front
  have number := congrArg Json.natOfDigits front
  rw [Json.natOfDigits_toDigits, Json.natOfDigits_toDigits] at number
  subst number
  exact ⟨rfl, (List.cons.inj (List.append_cancel_left tails)).2⟩

/-- The text of a path determines its steps. -/
theorem pathText_injective {path path' : List Nat} (same : pathText path = pathText path') : path = path' := by
  have chars := congrArg String.toList same
  rw [toList_pathText, toList_pathText] at chars
  have steps := List.append_cancel_left chars
  have some_text : ∀ i (rest : List Char), (stepText i).toList ++ rest ≠ [] := by
    intro i rest
    rw [toList_stepText]
    exact List.cons_ne_nil _ _
  clear same chars
  induction path generalizing path' with
  | nil =>
      cases path' with
      | nil => rfl
      | cons j path' => exact absurd steps.symm (some_text j _)
  | cons i path ih =>
      cases path' with
      | nil => exact absurd steps (some_text i _)
      | cons j path' =>
          obtain ⟨rfl, rest⟩ := stepText_append_inj steps
          rw [ih rest]

/-! ### The order of all defects -/

namespace Defect

/-- A defect at the end of one path is found before another at the end of a second path. An object is entered
    before everything below it and left after it, and what is below a child comes before what is below a
    later one. -/
def BeforeAt (d d' : Defect) : List Nat → List Nat → Prop
  | [], [] => d.rank < d'.rank
  | [], _ :: _ => d.isLate = false
  | _ :: _, [] => d'.isLate = true
  | i :: path, j :: path' => i < j ∨ i = j ∧ BeforeAt d d' path path'

theorem BeforeAt.asymm {d d' : Defect} {path path' : List Nat} (before : BeforeAt d d' path path') :
    ¬ BeforeAt d' d path' path := by
  induction path generalizing path' with
  | nil =>
      cases path' with
      | nil => exact Nat.lt_asymm before
      | cons j path' =>
          intro late
          cases before.symm.trans late
  | cons i path ih =>
      cases path' with
      | nil =>
          intro early
          cases before.symm.trans early
      | cons j path' =>
          rintro (less | ⟨rfl, inner⟩)
          · rcases before with less' | ⟨rfl, -⟩
            · exact Nat.lt_asymm less less'
            · exact Nat.lt_irrefl i less
          · rcases before with less' | ⟨-, inner'⟩
            · exact Nat.lt_irrefl j less'
            · exact ih inner' inner

end Defect

/-- One defect comes before another in load order. -/
def LoadError.Before (e e' : LoadError) : Prop := e.defect.BeforeAt e'.defect e.path e'.path

namespace Heap

variable {heap : Heap} {active : List Nat} {c : Child} {o : Object}

/-! ### Many objects -/

/-- A defect at the end of a path: the child there has it, or it is an object that stands at a shorter part
    of the path too, so that it contains itself. -/
def Flaw (heap : Heap) (root : Child) (e : LoadError) : Prop :=
  (∃ c, heap.at? root e.path = some c ∧ heap.Has c e.defect) ∨
  (e.defect = .cycle ∧ ∃ a, heap.at? root e.path = some (.object a) ∧
    ∃ front, front <+: e.path ∧ front ≠ e.path ∧ heap.at? root front = some (.object a))

/-- A defect at the end of a path that goes on from a child below the active objects. -/
def FlawFrom (heap : Heap) (active : List Nat) (c : Child) (e : LoadError) : Prop :=
  (∃ c', heap.at? c e.path = some c' ∧ heap.Has c' e.defect) ∨
  (e.defect = .cycle ∧ heap.MetAgain active c e.path)

theorem flawFrom_nil_iff {root : Child} {e : LoadError} : heap.FlawFrom [] root e ↔ heap.Flaw root e := by
  simp only [FlawFrom, Flaw, MetAgain, List.not_mem_nil, false_or]

/-- An object has a defect here, or one of its children is met again while it is active, or has a defect
    somewhere below. -/
theorem flawFrom_cons {d : Defect} {j : Nat} {steps : List Nat}
    (flaw : heap.FlawFrom active c ⟨d, j :: steps⟩) :
    ∃ o, heap.object? c = some o ∧ ∃ h : j < o.items.length,
      heap.FlawFrom (c.enter active) o.items[j] ⟨d, steps⟩ := by
  have reached : ∃ c', heap.at? c (j :: steps) = some c' := by
    rcases flaw with ⟨c', there, -⟩ | ⟨-, a, there, -⟩
    · exact ⟨c', there⟩
    · exact ⟨.object a, there⟩
  obtain ⟨c', there⟩ := reached
  rw [at?] at there
  obtain ⟨o, here, there⟩ := Option.bind_eq_some_iff.1 there
  obtain ⟨c'', item, -⟩ := Option.bind_eq_some_iff.1 there
  obtain ⟨h, -⟩ := List.getElem?_eq_some_iff.1 item
  refine ⟨o, here, h, ?_⟩
  unfold FlawFrom at flaw ⊢
  rwa [at?_cons here h, metAgain_cons here h] at flaw

/-- The defects at the child itself are those of the object that it is, and that it is met again. -/
theorem flawFrom_here {d : Defect} (here : heap.object? c = some o)
    (flaw : heap.FlawFrom active c ⟨d, []⟩) : o.Has d ∨ d = .cycle ∧ c.isActive active = true := by
  rcases flaw with ⟨c', same, has⟩ | ⟨cycle, met⟩
  · cases same
    cases has with
    | nowhere no_object => cases here.symm.trans no_object
    | object here' wrong =>
        cases here.symm.trans here'
        exact .inl wrong
  · exact .inr ⟨cycle, metAgain_nil.1 met⟩

/-- Where a child is read, there is no defect. -/
theorem not_flaw_of_loadChild (active : List Nat) (c : Child) :
    ∀ path n, heap.loadChild active path c = .ok n → ∀ e, ¬ heap.FlawFrom active c e := by
  induction active, c using heap.load_induction with
  | step active c ih =>
      intro path n read ⟨d, steps⟩ flaw
      obtain ⟨o, ns, here, idle, meets, below, -⟩ := heap.loadChild_eq_ok_iff.1 read
      cases steps with
      | nil =>
          rcases flawFrom_here here flaw with has | ⟨-, met⟩
          · exact meets.not_has has
          · cases idle.symm.trans met
      | cons j steps =>
          obtain ⟨o', here', h, inner⟩ := flawFrom_cons flaw
          cases here.symm.trans here'
          obtain ⟨size, each⟩ := heap.loadChildren_eq_ok_iff.1 below
          exact ih o here idle _ (List.getElem_mem h) _ _ (each j h (size ▸ h)) _ inner

/-- The error of reading a child comes before every other defect at it or below it. -/
theorem loadChild_error_first (active : List Nat) (c : Child) :
    ∀ path e, heap.loadChild active path c = .error e → ∀ steps, e.path = path ++ steps →
      ∀ e', heap.FlawFrom active c e' → e' = ⟨e.defect, steps⟩ ∨ LoadError.Before ⟨e.defect, steps⟩ e' := by
  -- The other defect is compared with the way in which reading stops: at the child itself by the number of
  -- its check, below it by the child it is under.
  induction active, c using heap.load_induction with
  | step active c ih =>
      rintro path e failed steps place ⟨d', steps'⟩ flaw
      have stay : path = path ++ steps → steps = [] := List.self_eq_append_right.1
      cases stops_of_loadChild failed with
      | nowhere no_object =>
          cases stay place
          cases steps' with
          | nil =>
              rcases flaw with ⟨c', same, has⟩ | ⟨cycle, -⟩
              · cases same
                cases has with
                | nowhere _ => exact .inl rfl
                | object here _ => cases no_object.symm.trans here
              · obtain rfl : d' = .cycle := cycle
                exact .inr Nat.zero_lt_one
          | cons j steps' =>
              obtain ⟨o, here, -⟩ := flawFrom_cons flaw
              cases no_object.symm.trans here
      | again here met =>
          cases stay place
          cases steps' with
          | nil =>
              rcases flawFrom_here here flaw with has | ⟨rfl, -⟩
              · exact .inr has.two_le_rank
              · exact .inl rfl
          -- The object is not entered a second time, so what stands below it here comes later.
          | cons j steps' => exact .inr rfl
      | opening here idle closed =>
          cases stay place
          obtain ⟨-, early, first⟩ := Object.opened_first closed
          cases steps' with
          | nil =>
              rcases flawFrom_here here flaw with has | ⟨-, met⟩
              · rcases first d' has with rfl | less
                · exact .inl rfl
                · exact .inr less
              · cases idle.symm.trans met
          | cons j steps' => exact .inr early
      | @child o _ _ j here idle opens h inner before =>
          obtain ⟨below, there, -⟩ := loadChild_error_at _ _ _ _ inner
          have down : steps = j :: below := by
            rw [there, List.append_assoc] at place
            exact (List.append_cancel_left place).symm
          subst down
          cases steps' with
          | nil =>
              rcases flawFrom_here here flaw with has | ⟨-, met⟩
              · exact .inr (Object.late_of_opened opens has).2
              · cases idle.symm.trans met
          | cons k steps' =>
              obtain ⟨o', here', h', flaw'⟩ := flawFrom_cons flaw
              cases here.symm.trans here'
              -- Children in front of the failing one were read, so that they hold no defect.
              rcases Nat.lt_trichotomy j k with less | rfl | greater
              · exact .inr (.inl less)
              · rcases ih o here idle _ (List.getElem_mem h) _ _ inner below there _ flaw' with same | less
                · cases same
                  exact .inl rfl
                · exact .inr (.inr ⟨rfl, less⟩)
              · obtain ⟨n, read⟩ := before k greater
                exact absurd flaw' (not_flaw_of_loadChild _ _ _ _ read _)
      | closing here idle opens read unfit =>
          cases stay place
          cases steps' with
          | nil =>
              rcases flawFrom_here here flaw with has | ⟨-, met⟩
              · obtain ⟨wrong, late⟩ := Object.late_of_opened opens has
                rcases (findsFirst_finish.found _ unfit).2 d' wrong late with rfl | less
                · exact .inl rfl
                · exact .inr less
              · cases idle.symm.trans met
          | cons k steps' =>
              obtain ⟨o', here', h', flaw'⟩ := flawFrom_cons flaw
              cases here.symm.trans here'
              obtain ⟨size, each⟩ := heap.loadChildren_eq_ok_iff.1 read
              exact absurd flaw' (not_flaw_of_loadChild _ _ _ _ (each k h' (size ▸ h')) _)

/-- A load, of an object of a heap or of a value, reports the first of all defects in load order. The fault
    names the defect and the path, the text of the path leads to one place only, and what stands there has
    the defect: it stands there by itself or, where it is a cycle, is an object that also stands at a shorter
    part of the path. Any other defect, also one at the same place or at a place that is reached by going
    round a cycle, comes behind the reported one and not in front of it. -/
theorem load_reports_first_flaw (heap : Heap) (root : Child) (e : LoadError)
    (failed : (match root with
      | .object a => heap.load a
      | .value d => Node.load d) = .error e) :
    (∃ f, e.failure = .fault f ∧ f.cls = .malformedTree ∧ f.path = some (pathText e.path) ∧
      f.message = s!"{e.defect.message} (at {pathText e.path})" ∧
      ∀ steps, pathText steps = pathText e.path → steps = e.path) ∧
    heap.Flaw root e ∧
    ∀ e', heap.Flaw root e' → e' ≠ e → e.Before e' ∧ ¬ e'.Before e := by
  have read : heap.loadChild [] [] root = .error e := by cases root <;> exact failed
  refine ⟨⟨_, rfl, rfl, rfl, if_neg (pathText_ne_empty e.path), fun _ => pathText_injective⟩, ?_, ?_⟩
  · obtain ⟨steps, place, found⟩ := loadChild_error_at [] root [] e read
    rw [List.nil_append] at place
    rw [← place] at found
    exact flawFrom_nil_iff.1 found
  · intro e' flaw other
    have before : e.Before e' :=
      (loadChild_error_first [] root [] e read e.path rfl e' (flawFrom_nil_iff.2 flaw)).resolve_left other
    exact ⟨before, Defect.BeforeAt.asymm before⟩

/-- Two objects that contain each other, the first of them with a wrong field and with a second child that is
    no object, the second with a wrong field. The cycle comes before all three. -/
theorem load_reports_first_flaw_cycle :
    let heap : Heap :=
      [⟨[(.str "type", .str "root"), (.str "value", .int 5)], .list [.object 1, .value .null]⟩,
       ⟨[(.str "type", .str "paragraph"), (.str "url", .int 3)], .list [.object 0]⟩]
    heap.load 0 = .error ⟨.cycle, [0, 0]⟩ ∧
    heap.Flaw (.object 0) ⟨.cycle, [0, 0]⟩ ∧
    LoadError.Before ⟨.cycle, [0, 0]⟩ ⟨.wrongField "url" "str" "int", [0]⟩ ∧
    LoadError.Before ⟨.cycle, [0, 0]⟩ ⟨.notAnObject "NoneType", [1]⟩ ∧
    LoadError.Before ⟨.cycle, [0, 0]⟩ ⟨.wrongField "value" "str" "int", []⟩ := by
  intro heap
  have failed : heap.load 0 = .error ⟨.cycle, [0, 0]⟩ := by cbv
  obtain ⟨-, flaw, first⟩ := load_reports_first_flaw heap (.object 0) _ failed
  refine ⟨failed, flaw, ?_, ?_, ?_⟩
  · refine (first _ (.inl ⟨.object 1, rfl, .object rfl (.entries ?_)⟩) (by decide)).1
    exact .wrongField (d := .int 3) (by decide) rfl Data.noConfusion (by decide)
  · exact (first _ (.inl ⟨.value .null, rfl, .nowhere rfl⟩) (by decide)).1
  · refine (first _ (.inl ⟨.object 0, rfl, .object rfl (.entries ?_)⟩) (by decide)).1
    exact .wrongField (d := .int 5) (by decide) rfl Data.noConfusion (by decide)

end Heap

end Unmark
