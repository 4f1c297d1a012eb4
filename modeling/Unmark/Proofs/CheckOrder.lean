import Unmark.Proofs.HeapReading

/-
Module: Unmark.Proofs.CheckOrder
Layer: Proofs
Purpose: The checks of one object. What is wrong with an object is said without their order (`Object.Has`);
  every check has a number (`Defect.rank`), and the checks on entering an object and those on leaving it each
  report the defect with the least number. A check that fails so names a defect that the object has, and one
  in front of the other defects that are checked together with it.
Main exports: payloadTypes, HasDefect, Object.Has, Defect.rank, Defect.isLate, HasDefect.eq_of_rank_eq,
  FindsFirst, findsFirst_finish, Object.opened_first, Object.late_of_opened, MeetsContract.not_has
-/

namespace Unmark

open Load

/-! ### Defects of one object -/

/-- The payload fields and the types that messages ask of them. -/
def Load.payloadTypes : List (String × String) :=
  [("value", "str"), ("url", "str"), ("title", "str"), ("alt", "str"), ("lang", "str"),
   ("identifier", "str"), ("depth", "int"), ("start", "int"), ("ordered", "bool"), ("checked", "bool")]

/-- Entries have a defect by themselves: no type, a payload field of another type, or metadata that is no
    mapping. -/
inductive Load.HasDefect (es : Entries) : Defect → Prop where
  | missingType (untyped : ¬ ∃ s, Data.lookup "type" es = some (.str s) ∧ s ≠ "") :
      HasDefect es .missingType
  | wrongField {key expected : String} {d : Data} (known : (key, expected) ∈ payloadTypes)
      (found : Data.lookup key es = some d) (present : d ≠ .null) (other : d.typeName ≠ expected) :
      HasDefect es (.wrongField key expected d.typeName)
  | metadataNotAnObject {d : Data}
      (found : (Data.lookup "metadata" es).or (Data.lookup "data" es) = some d) (present : d ≠ .null)
      (other : ∀ fs, d ≠ .map fs) : HasDefect es .metadataNotAnObject

/-- An object has a defect: one of its entries, or children that are no list. -/
inductive Object.Has (o : Object) : Defect → Prop where
  | entries {defect : Defect} (wrong : HasDefect o.entries defect) : Has o defect
  | children {found : String} (other : o.children = .other found) : Has o (.childrenNotAList found)

namespace Defect

/-- The number of a check among the checks of one object. -/
def rank : Defect → Nat
  | notAnObject _ => 0
  | cycle => 1
  | missingType => 2
  | childrenNotAList _ => 3
  | wrongField key _ _ => 4 + (payloadTypes.map Prod.fst).idxOf key
  | metadataNotAnObject => 4 + payloadTypes.length

/-- Whether a check is made on leaving an object, behind its children. -/
def isLate (d : Defect) : Bool := 4 ≤ d.rank

end Defect

namespace Load

variable {es : Entries} {d d' : Defect}

/-! ### The checks of one object, in order -/

/-- The payload fields have different numbers, and a number has its field. -/
theorem eq_of_idxOf_eq : ∀ f ∈ payloadTypes, ∀ f' ∈ payloadTypes,
    (payloadTypes.map Prod.fst).idxOf f.1 = (payloadTypes.map Prod.fst).idxOf f'.1 → f = f' := by
  decide

theorem idxOf_lt {key expected : String} (known : (key, expected) ∈ payloadTypes) :
    (payloadTypes.map Prod.fst).idxOf key < payloadTypes.length := by
  rw [← List.length_map Prod.fst]
  exact List.idxOf_lt_length_of_mem (List.mem_map_of_mem known)

/-- A defect of entries is a missing type, or it is found on leaving the object. -/
theorem HasDefect.late_or (has : HasDefect es d) : d = .missingType ∨ d.isLate = true := by
  cases has with
  | missingType _ => exact .inl rfl
  | wrongField _ _ _ _ => exact .inr (decide_eq_true (Nat.le_add_right 4 _))
  | metadataNotAnObject _ _ _ => exact .inr (decide_eq_true (Nat.le_add_right 4 _))

theorem rank_wrongField_lt {key expected : String} (known : (key, expected) ∈ payloadTypes)
    (found : String) : (Defect.wrongField key expected found).rank < 14 :=
  Nat.add_lt_add_left (idxOf_lt known) 4

theorem HasDefect.rank_lt (has : HasDefect es d) : d.rank < 15 := by
  cases has with
  | missingType _ => exact (by decide : 2 < 15)
  | wrongField known _ _ _ => exact Nat.lt_succ_of_lt (rank_wrongField_lt known _)
  | metadataNotAnObject _ _ _ => exact (by decide : 14 < 15)

/-- No two defects of the same entries have one number. -/
theorem HasDefect.eq_of_rank_eq (has : HasDefect es d) (has' : HasDefect es d') (same : d.rank = d'.rank) :
    d = d' := by
  cases has with
  | missingType _ =>
      cases has' with
      | missingType _ => rfl
      | wrongField _ _ _ _ =>
          simp only [Defect.rank] at same
          omega
      | metadataNotAnObject _ _ _ => cases same
  | wrongField known found _ _ =>
      cases has' with
      | missingType _ =>
          simp only [Defect.rank] at same
          omega
      | wrongField known' found' _ _ =>
          cases eq_of_idxOf_eq _ known _ known' (Nat.add_left_cancel same)
          cases found.symm.trans found'
          rfl
      | metadataNotAnObject _ _ _ => exact absurd same (Nat.ne_of_lt (rank_wrongField_lt known _))
  | metadataNotAnObject _ _ _ =>
      cases has' with
      | missingType _ => cases same
      | wrongField known _ _ _ => exact absurd same (Nat.ne_of_gt (rank_wrongField_lt known _))
      | metadataNotAnObject _ _ _ => rfl

/-- A check fails exactly when the entries have the defect with number `n`, and reports this defect. -/
structure Decides {α : Type} (es : Entries) (n : Nat) (x : Except Defect α) : Prop where
  found : ∀ d, x = .error d → HasDefect es d ∧ d.rank = n
  passed : ∀ a, x = .ok a → ∀ d, HasDefect es d → d.rank ≠ n

/-- No late defect of the entries has a number below `n`. -/
def Clear (es : Entries) (n : Nat) : Prop := ∀ d, HasDefect es d → d.isLate = true → n ≤ d.rank

/-- Checks report a defect that comes before all other late ones, and pass when there is none. -/
structure FindsFirst {α : Type} (es : Entries) (x : Except Defect α) : Prop where
  found : ∀ d, x = .error d →
    HasDefect es d ∧ ∀ d', HasDefect es d' → d'.isLate = true → d' = d ∨ d.rank < d'.rank
  passed : ∀ a, x = .ok a → ∀ d, HasDefect es d → d.isLate = false

theorem clear_four (es : Entries) : Clear es 4 := fun _ _ late => of_decide_eq_true late

/-- A check with what follows it finds the first defect, after checks that found nothing. -/
theorem findsFirst_of_check {α β : Type} {n : Nat} {x : Except Defect α} {f : α → Except Defect β}
    (decides : Decides es n x) (clear : Clear es n)
    (rest : Clear es (n + 1) → ∀ a, FindsFirst es (f a)) : FindsFirst es (x >>= f) := by
  cases check : x with
  | error e =>
      obtain ⟨has, number⟩ := decides.found e check
      refine ⟨?_, fun _ passed => by cases passed⟩
      intro d failed
      cases failed
      refine ⟨has, fun d' has' late => ?_⟩
      rcases Nat.lt_or_eq_of_le (clear d' has' late) with above | same
      · exact .inr (number ▸ above)
      · exact .inl (has'.eq_of_rank_eq has (same.symm.trans number.symm))
  | ok a =>
      refine rest (fun d has late => ?_) a
      have here := decides.passed a check d has
      have above := clear d has late
      omega

/-- When all checks found nothing, there is no late defect. -/
theorem findsFirst_pure {α : Type} {a : α} (clear : Clear es 15) : FindsFirst es (.ok a) := by
  refine ⟨fun _ failed => ?_, fun _ _ d has => ?_⟩
  · cases failed
  · cases late : d.isLate with
    | false => rfl
    | true => exact absurd (clear d has late) (Nat.not_le_of_gt has.rank_lt)

theorem decides_kindOf : Decides es 2 (kindOf es) where
  found := by
    intro d failed
    have untyped : ¬ ∃ s, Data.lookup "type" es = some (.str s) ∧ s ≠ "" := by
      intro type
      cases (kindOf_eq_ok_iff.2 ⟨type, rfl⟩).symm.trans failed
    unfold kindOf at failed
    split at failed
    · split at failed <;> cases failed
      exact ⟨.missingType untyped, rfl⟩
    · cases failed
      exact ⟨.missingType untyped, rfl⟩
  passed := by
    intro kind check d has same
    rcases has.late_or with rfl | late
    · cases has with
      | missingType untyped => exact untyped (kindOf_eq_ok_iff.1 check).1
    · have above := clear_four es d has late
      omega

/-- A check of a field decides whether its value is of another type. -/
theorem decides_field {α : Type} {expected : String} {read : Data → Option α}
    (typed : ∀ d, read d = none ↔ d.typeName ≠ expected) {key : String} {n : Nat}
    (known : (key, expected) ∈ payloadTypes) (number : 4 + (payloadTypes.map Prod.fst).idxOf key = n) :
    Decides es n (field expected read es key) where
  found := by
    intro d failed
    unfold field at failed
    split at failed
    · cases failed
    · cases failed
    · rename_i value present found
      split at failed <;> cases failed
      rename_i unread
      exact ⟨.wrongField known found present ((typed value).1 unread), number⟩
  passed := by
    intro a check d has same
    cases has with
    | missingType _ =>
        simp only [Defect.rank] at same
        omega
    | wrongField known' found present other =>
        cases eq_of_idxOf_eq _ known' _ known (Nat.add_left_cancel (same.trans number.symm))
        unfold field at check
        rw [found] at check
        split at check
        · rename_i absent
          cases absent
        · rename_i null
          cases null
          exact present rfl
        · rename_i value
          cases value
          rw [(typed _).2 other] at check
          cases check
    | metadataNotAnObject _ _ _ =>
        exact absurd (same.trans number.symm) (Nat.ne_of_gt (rank_wrongField_lt known ""))

theorem decides_stringField {key : String} {n : Nat} (known : (key, "str") ∈ payloadTypes)
    (number : 4 + (payloadTypes.map Prod.fst).idxOf key = n) : Decides es n (stringField es key) := by
  refine decides_field ?_ known number
  intro d
  cases d
  case enclosing c => cases c <;> simp [Data.string?, Data.typeName, Collection.typeName]
  all_goals simp [Data.string?, Data.typeName]

theorem decides_intField {key : String} {n : Nat} (known : (key, "int") ∈ payloadTypes)
    (number : 4 + (payloadTypes.map Prod.fst).idxOf key = n) : Decides es n (intField es key) := by
  refine decides_field ?_ known number
  intro d
  cases d
  case enclosing c => cases c <;> simp [Data.int?, Data.typeName, Collection.typeName]
  all_goals simp [Data.int?, Data.typeName]

theorem decides_boolField {key : String} {n : Nat} (known : (key, "bool") ∈ payloadTypes)
    (number : 4 + (payloadTypes.map Prod.fst).idxOf key = n) : Decides es n (boolField es key) := by
  refine decides_field ?_ known number
  intro d
  cases d
  case enclosing c => cases c <;> simp [Data.bool?, Data.typeName, Collection.typeName]
  all_goals simp [Data.bool?, Data.typeName]

theorem decides_metadataOf : Decides es 14 (metadataOf es) where
  found := by
    intro d failed
    unfold metadataOf at failed
    split at failed
    · cases failed
    · cases failed
    · cases failed
    · rename_i value present other found
      cases failed
      exact ⟨.metadataNotAnObject found present other, rfl⟩
  passed := by
    intro fs check d has same
    cases has with
    | missingType _ => cases same
    | wrongField known _ _ _ => exact absurd same (Nat.ne_of_lt (rank_wrongField_lt known _))
    | metadataNotAnObject found present other =>
        rcases (metadataOf_eq_ok_iff.1 check).1 _ found with null | ⟨gs, map⟩
        · exact present null
        · exact other gs map

/-- The checks behind the children find the first late defect. -/
theorem findsFirst_finish {kind : Kind} {children : List Node} : FindsFirst es (finish kind es children) := by
  unfold finish payloadOf
  simp only [bind_assoc, pure_bind]
  refine findsFirst_of_check (decides_stringField (by decide) (by decide)) (clear_four es) fun clear _ => ?_
  refine findsFirst_of_check (decides_stringField (by decide) (by decide)) clear fun clear _ => ?_
  refine findsFirst_of_check (decides_stringField (by decide) (by decide)) clear fun clear _ => ?_
  refine findsFirst_of_check (decides_stringField (by decide) (by decide)) clear fun clear _ => ?_
  refine findsFirst_of_check (decides_stringField (by decide) (by decide)) clear fun clear _ => ?_
  refine findsFirst_of_check (decides_stringField (by decide) (by decide)) clear fun clear _ => ?_
  refine findsFirst_of_check (decides_intField (by decide) (by decide)) clear fun clear _ => ?_
  refine findsFirst_of_check (decides_intField (by decide) (by decide)) clear fun clear _ => ?_
  refine findsFirst_of_check (decides_boolField (by decide) (by decide)) clear fun clear _ => ?_
  refine findsFirst_of_check (decides_boolField (by decide) (by decide)) clear fun clear _ => ?_
  exact findsFirst_of_check decides_metadataOf clear fun clear _ => findsFirst_pure clear

end Load

namespace Object

variable {o : Object} {d : Defect}

/-- Entering an object fails for the first of its defects, which is no late one. -/
theorem opened_first (failed : o.opened = .error d) :
    o.Has d ∧ d.isLate = false ∧ ∀ d', o.Has d' → d' = d ∨ d.rank < d'.rank := by
  unfold opened at failed
  cases kind : kindOf o.entries with
  | error e =>
      simp only [kind, Except.error.injEq] at failed
      subst failed
      obtain ⟨has, number⟩ := decides_kindOf.found e kind
      refine ⟨.entries has, by rw [Defect.isLate, number]; rfl, ?_⟩
      intro d' has'
      rw [number]
      cases has' with
      | children _ => exact .inr (Nat.lt_succ_self 2)
      | entries wrong =>
          rcases wrong.late_or with rfl | late
          · exact .inl (wrong.eq_of_rank_eq has number.symm)
          · exact .inr (Nat.lt_of_lt_of_le (by decide) (clear_four _ d' wrong late))
  | ok k =>
      simp only [kind] at failed
      split at failed <;> cases failed
      rename_i found other
      refine ⟨.children other, rfl, ?_⟩
      intro d' has'
      cases has' with
      | children other' =>
          cases other.symm.trans other'
          exact .inl rfl
      | entries wrong =>
          rcases wrong.late_or with rfl | late
          · exact absurd rfl (decides_kindOf.passed k kind _ wrong)
          · exact .inr (clear_four _ d' wrong late)

/-- Once an object is entered, its entries have all that is left to find. -/
theorem late_of_opened {k : Kind} (opens : o.opened = .ok k) (has : o.Has d) :
    HasDefect o.entries d ∧ d.isLate = true := by
  obtain ⟨⟨typed, listed⟩, -⟩ := opened_eq_ok_iff.1 opens
  cases has with
  | children other => exact absurd other (listed _)
  | entries wrong =>
      refine ⟨wrong, ?_⟩
      rcases wrong.late_or with rfl | late
      · cases wrong with
        | missingType untyped => exact absurd typed untyped
      · exact late

/-- An object that passes all checks has no defect. -/
theorem MeetsContract.not_has (meets : o.MeetsContract) : ¬ o.Has d := by
  intro has
  have opens := opened_eq_ok_iff.2 ⟨⟨meets.entries.type, meets.children⟩, rfl⟩
  obtain ⟨wrong, late⟩ := late_of_opened opens has
  have passes : finish _ o.entries [] = .ok (nodeOf o.entries []) :=
    finish_eq_ok_iff.2 ⟨⟨meets.entries.payload, meets.entries.metadata⟩, rfl⟩
  cases (findsFirst_finish.passed _ passes d wrong).symm.trans late

/-- The checks on reaching an object come before those on its entries and children. -/
theorem Has.two_le_rank (has : o.Has d) : 2 ≤ d.rank := by
  cases has with
  | children _ => exact Nat.le_succ 2
  | entries wrong =>
      rcases wrong.late_or with rfl | late
      · exact Nat.le_refl 2
      · exact Nat.le_trans (by decide) (clear_four _ d wrong late)

end Object

end Unmark
