import Unmark.Files.Store

/-
Module: Unmark.Proofs.StoreWrites
Layer: Proofs
Purpose: What writing a file leaves as it is. Files are written where no directory is, so the directories of a
  store stay, and with them the way that each path takes. A change spares a path if the path names
  afterwards what it named before: to append under one path spares those that do not lead to the same
  place.
Main exports: Store.SameDirectories, Store.SamePlace, Store.Spares, Store.Spares.find_eq,
  Store.spares_append, Store.find_write
-/

namespace Unmark.Files.Store

variable {s s' s'' : Store}

/-! ### Ways -/

/-- Two stores have the same directories, which are barred from the same. -/
def SameDirectories (s s' : Store) : Prop :=
  ∀ parts access, s'.entry? parts = some (.directory access) ↔ s.entry? parts = some (.directory access)

theorem SameDirectories.symm (same : SameDirectories s s') : SameDirectories s' s :=
  fun parts access => (same parts access).symm

/-- A directory that is barred from something is so in both. -/
theorem SameDirectories.directoryAccess_eq (same : SameDirectories s s') (parts : List String) :
    s'.directoryAccess parts = s.directoryAccess parts := by
  unfold directoryAccess
  split
  · rename_i access found
    rw [(same parts access).1 found]
  · rename_i other
    split
    · rename_i access found
      exact absurd ((same parts access).2 found) (other access)
    · rfl

/-- What a way comes to depends on the directories alone, but for the reason why it comes to nothing. -/
theorem SameDirectories.follow_eq (same : SameDirectories s s') {here ps : List String}
    (missing : s.follow here ps ≠ .error .missing) (blocked : s.follow here ps ≠ .error .notDirectory) :
    s'.follow here ps = s.follow here ps := by
  induction ps generalizing here with
  | nil => rfl
  | cons p ps ih =>
      unfold follow at missing blocked ⊢
      rw [same.directoryAccess_eq]
      cases barrier : (s.directoryAccess here.reverse).searching with
      | some r => rfl
      | none =>
          rw [barrier] at missing blocked
          dsimp only at missing blocked ⊢
          split
          · rfl
          · rename_i short
            rw [if_neg short] at missing blocked
            split
            · rename_i up
              rw [if_pos up] at missing blocked
              exact ih missing blocked
            · rename_i down
              rw [if_neg down] at missing blocked
              split
              · rfl
              · rename_i more
                rw [if_neg more] at missing blocked
                cases found : s.entry? (p :: here).reverse with
                | none =>
                    rw [found] at missing
                    exact absurd rfl missing
                | some e =>
                    rw [found] at missing blocked
                    cases e with
                    | file content access => exact absurd rfl blocked
                    | directory access =>
                        rw [(same _ access).2 found]
                        exact ih missing blocked

theorem SameDirectories.locate_eq (same : SameDirectories s s') {p : Path}
    {r : Except Reason (List String)} (located : s.locate p = r) (missing : r ≠ .error .missing)
    (blocked : r ≠ .error .notDirectory) : s'.locate p = r := by
  subst located
  unfold locate at missing blocked ⊢
  split
  · rfl
  · rename_i named
    rw [if_neg named] at missing blocked
    split
    · rfl
    · rename_i short
      rw [if_neg short] at missing blocked
      exact same.follow_eq missing blocked

theorem SameDirectories.locate_ok (same : SameDirectories s s') {p : Path} {parts : List String}
    (located : s.locate p = .ok parts) : s'.locate p = .ok parts := same.locate_eq located nofun nofun

/-- A way that is barred stays so. -/
theorem SameDirectories.locate_refused (same : SameDirectories s s') {p : Path} {r : Reason}
    (located : s.locate p = .error r) (grave : r.meansAbsence = false) : s'.locate p = .error r := by
  refine same.locate_eq located ?_ ?_ <;> rintro ⟨⟩ <;> cases grave

/-! ### Names that no file can have -/

theorem follow_ne_badName (s : Store) (here ps : List String) : s.follow here ps ≠ .error .badName := by
  induction ps generalizing here with
  | nil => exact nofun
  | cons p ps ih =>
      unfold follow
      dsimp only
      split
      · exact nofun
      · split
        · exact nofun
        · split
          · exact ih _
          · split
            · exact nofun
            · split
              · exact ih _
              · exact nofun
              · exact nofun

/-- A path leads to no place for its name exactly if it has a null character. -/
theorem locate_eq_badName_iff {p : Path} : s.locate p = .error .badName ↔ p.isUnnameable = true := by
  unfold locate
  split
  · rename_i bad
    exact iff_of_true rfl bad
  · rename_i named
    refine iff_of_false ?_ named
    split
    · exact nofun
    · exact follow_ne_badName s _ _

theorem barrier?_ne_badName (s : Store) (parts : List String) : s.barrier? parts ≠ some .badName := by
  unfold barrier?
  split <;> simp

theorem target_of_unnameable {p : Path} (bad : p.isUnnameable = true) :
    s.target p = .error ⟨.badName, p.text⟩ := by
  unfold target
  rw [locate_eq_badName_iff.2 bad]

/-- A file is refused for its name exactly if that has a null character. -/
theorem badName_iff_of_target {p : Path} {r : Refusal} (refused : s.target p = .error r) :
    r.reason = .badName ↔ p.isUnnameable = true := by
  rw [← locate_eq_badName_iff (s := s)]
  unfold target at refused
  cases located : s.locate p with
  | error reason =>
      rw [located] at refused
      cases refused
      exact ⟨congrArg _, Except.error.inj⟩
  | ok parts =>
      rw [located] at refused
      dsimp only at refused
      refine iff_of_false ?_ nofun
      split at refused
      · rename_i barred
        cases refused
        rintro rfl
        exact barrier?_ne_badName s parts barred
      · cases refused

/-- Two paths lead to one place. -/
def SamePlace (s : Store) (p q : Path) : Prop := ∃ parts, s.locate p = .ok parts ∧ s.locate q = .ok parts

theorem SameDirectories.samePlace (same : SameDirectories s s') {p q : Path} (one : s'.SamePlace p q) :
    s.SamePlace p q := by
  obtain ⟨parts, first, second⟩ := one
  exact ⟨parts, same.symm.locate_ok first, same.symm.locate_ok second⟩

/-! ### What a change spares -/

/-- A change of a store leaves its directories, and what a path leads to. -/
structure Spares (p : Path) (s s' : Store) : Prop where
  directories : SameDirectories s s'
  entry {parts : List String} (located : s.locate p = .ok parts) : s'.entry? parts = s.entry? parts

variable {p q : Path} {content : List UInt8}

theorem Spares.refl (p : Path) (s : Store) : Spares p s s := ⟨fun _ _ => Iff.rfl, fun _ => rfl⟩

theorem Spares.trans (first : Spares p s s') (second : Spares p s' s'') : Spares p s s'' where
  directories parts access := (second.directories parts access).trans (first.directories parts access)
  entry located := (second.entry (first.directories.locate_ok located)).trans (first.entry located)

/-- A path that is spared names what it named before. -/
theorem Spares.find_eq (spares : Spares p s s') : s'.find p = s.find p := by
  have same := spares.directories
  unfold find
  cases located : s.locate p with
  | ok parts =>
      rw [same.locate_ok located]
      dsimp only
      rw [spares.entry located]
  | error r =>
      cases absence : r.meansAbsence with
      | false =>
          rw [same.locate_refused located absence]
      | true =>
          -- Afterwards, too, the path leads nowhere, if for another reason.
          cases located' : s'.locate p with
          | ok parts => cases located.symm.trans (same.symm.locate_ok located')
          | error r' =>
              cases absence' : r'.meansAbsence with
              | false =>
                  cases located.symm.trans (same.symm.locate_refused located' absence')
                  cases absence.symm.trans absence'
              | true =>
                  dsimp only
                  rw [absence, absence']
                  rfl

/-! ### One file -/

theorem lookup_cons (name other : List String) (e : Entry) (s : Store) :
    List.lookup other ((name, e) :: s) = if other = name then some e else s.lookup other := by
  rw [List.lookup_cons]
  by_cases same : other = name
  · rw [if_pos same, beq_iff_eq.2 same]
  · rw [if_neg same, beq_eq_false_iff_ne.2 same]

/-- Giving what has some parts another entry. -/
theorem lookup_replaced (s : Store) (parts other : List String) (replacement : Entry) :
    (s.map fun (q, e) => if q = parts then (q, replacement) else (q, e)).lookup other =
      if other = parts then (s.lookup parts).map fun _ => replacement else s.lookup other := by
  induction s with
  | nil => simp
  | cons f s ih =>
      obtain ⟨name, e⟩ := f
      rw [List.map_cons]
      by_cases changed : name = parts
      · subst changed
        simp only [if_true, lookup_cons, ih]
        by_cases same : other = name <;> simp [same]
      · have kept : parts ≠ name := fun same => changed same.symm
        simp only [if_neg changed, if_neg kept, lookup_cons, ih]
        by_cases same : other = parts
        · subst same
          rw [if_neg kept, if_pos rfl, if_pos rfl]
        · rw [if_neg same, if_neg same]

/-- A file that is put somewhere with a content, barred from what the file before it was barred from. -/
def successor (s : Store) (parts : List String) (content : List UInt8) : Entry :=
  .file content ((s.lookup parts).elim {} Entry.access)

theorem lookup_put (s : Store) (parts other : List String) (content : List UInt8) :
    (s.put parts content).lookup other =
      if other = parts then some (s.successor parts content) else s.lookup other := by
  unfold put successor
  cases known : s.lookup parts with
  | some e =>
      dsimp only
      rw [lookup_replaced, known]
      rfl
  | none =>
      dsimp only
      rw [List.lookup_append, lookup_cons, List.lookup_nil]
      by_cases same : other = parts
      · rw [if_pos same, if_pos same, same, known, Option.none_or]
        rfl
      · rw [if_neg same, if_neg same, Option.or_none]

/-- There is no directory with some parts. -/
def Free (s : Store) (parts : List String) : Prop := ∀ access, s.entry? parts ≠ some (.directory access)

theorem Free.not_isBase {parts : List String} (free : s.Free parts) : ¬ isBase parts = true := by
  intro base
  unfold Free entry? at free
  rw [if_pos base] at free
  exact free _ rfl

/-- What nothing keeps from being written is no directory. -/
theorem free_of_barrier? {parts : List String} (open_ : s.barrier? parts = none) : s.Free parts := by
  intro access found
  unfold barrier? at open_
  rw [found] at open_
  cases open_

/-- A file can be where no directory is, and then changes no other entry. -/
theorem entry?_put {parts : List String} (free : s.Free parts) (other : List String) :
    entry? (s.put parts content) other =
      if other = parts then some (s.successor parts content) else s.entry? other := by
  unfold entry?
  rw [lookup_put]
  by_cases same : other = parts
  · subst same
    simp [free.not_isBase]
  · simp [same]

theorem sameDirectories_put {parts : List String} (free : s.Free parts) :
    SameDirectories s (s.put parts content) := by
  intro other access
  rw [entry?_put free]
  split
  · rename_i same
    subst same
    exact ⟨nofun, fun directory => absurd directory (free access)⟩
  · exact Iff.rfl

theorem target_eq_ok {parts : List String} (targeted : s.target p = .ok parts) :
    s.locate p = .ok parts ∧ s.Free parts := by
  unfold target at targeted
  split at targeted
  · cases targeted
  · rename_i located
    split at targeted
    · cases targeted
    · rename_i open_
      cases targeted
      exact ⟨located, free_of_barrier? open_⟩

/-- Writing puts a file where the path leads to, which is no directory. -/
theorem write_eq_ok (wrote : s.write p content = .ok s') : ∃ parts, s.locate p = .ok parts ∧
    s.Free parts ∧ s' = s.put parts content := by
  unfold write at wrote
  cases targeted : s.target p with
  | error r =>
      rw [targeted] at wrote
      cases wrote
  | ok parts =>
      rw [targeted] at wrote
      obtain ⟨located, free⟩ := target_eq_ok targeted
      exact ⟨parts, located, free, (Except.ok.inj wrote).symm⟩

/-- So does appending, with what was in the file in front. -/
theorem append_eq_ok (appended : s.append p content = .ok s') : ∃ parts whole, s.locate p = .ok parts ∧
    s.Free parts ∧ s' = s.put parts whole := by
  unfold append at appended
  cases targeted : s.target p with
  | error r =>
      rw [targeted] at appended
      cases appended
  | ok parts =>
      rw [targeted] at appended
      obtain ⟨located, free⟩ := target_eq_ok targeted
      cases appended
      dsimp only
      split <;> exact ⟨parts, _, located, free, rfl⟩

/-- Appending to a file spares the paths that lead elsewhere. -/
theorem spares_append (appended : s.append q content = .ok s') (apart : ¬ s.SamePlace q p) :
    Spares p s s' := by
  obtain ⟨parts, whole, located, free, rfl⟩ := append_eq_ok appended
  refine ⟨sameDirectories_put free, ?_⟩
  intro other located'
  rw [entry?_put free, if_neg]
  rintro rfl
  exact apart ⟨other, located, located'⟩

theorem sameDirectories_write (wrote : s.write p content = .ok s') : SameDirectories s s' := by
  obtain ⟨parts, -, free, rfl⟩ := write_eq_ok wrote
  exact sameDirectories_put free

/-- A file that is written has the content that is written, and is barred from what it was barred from before. -/
theorem find_write (wrote : s.write p content = .ok s') :
    ∃ access, s'.find p = .ok (some (.file content access)) := by
  obtain ⟨parts, located, free, rfl⟩ := write_eq_ok wrote
  refine ⟨(s.lookup parts).elim {} Entry.access, ?_⟩
  unfold find
  rw [(sameDirectories_put free).locate_ok located]
  dsimp only
  rw [entry?_put free, if_pos rfl]
  rfl

end Unmark.Files.Store
