import Mathlib.Data.List.Basic

/-
Module: Unmark.Proofs.Replacing
Layer: Proofs
Purpose: Replacing every occurrence of one text in another, said without positions. A text is read from left to
  right; where the old text starts, the new one is put for it and the reading goes on behind it, and anywhere
  else one character is kept. This describes one result (`Replaced.unique`), and `String.replace` finds it
  (`replaced_replace`).
Main exports: Text.Replaced, Replaced.unique, Replaced.append_of_not_mem, replaced_replace
-/

namespace Unmark.Text

/-- The second text is the first with the occurrences of `old` replaced by `new`, from left to right and
    without overlaps. -/
inductive Replaced (old new : List Char) : List Char → List Char → Prop where
  | nil : Replaced old new [] []
  | hit {rest out : List Char} (after : Replaced old new rest out) :
      Replaced old new (old ++ rest) (new ++ out)
  | keep {c : Char} {rest out : List Char} (absent : ¬ old <+: c :: rest)
      (after : Replaced old new rest out) : Replaced old new (c :: rest) (c :: out)

namespace Replaced

variable {old new : List Char}

/-- What is to be replaced is not empty, so there is one result only. -/
theorem unique (nonempty : old ≠ []) {s out out' : List Char} (first : Replaced old new s out)
    (second : Replaced old new s out') : out = out' := by
  induction first generalizing out' with
  | nil =>
      generalize text : ([] : List Char) = s at second
      cases second with
      | nil => rfl
      | hit => exact absurd (List.append_eq_nil_iff.1 text.symm).1 nonempty
      | keep => cases text
  | @hit rest out _ ih =>
      generalize text : old ++ rest = s at second
      cases second with
      | nil => exact absurd (List.append_eq_nil_iff.1 text).1 nonempty
      | hit after => rw [ih (List.append_cancel_left text ▸ after)]
      | keep absent => exact absurd ⟨rest, text⟩ absent
  | @keep c rest out absent _ ih =>
      generalize text : c :: rest = s at second
      cases second with
      | nil => cases text
      | @hit rest' => exact absurd ⟨rest', text.symm⟩ absent
      | keep _ after =>
          cases text
          rw [ih after]

/-- Characters at which the old text does not start are kept. -/
theorem keep_all {kept rest out : List Char}
    (absent : ∀ front c back, kept = front ++ c :: back → ¬ old <+: c :: (back ++ rest))
    (after : Replaced old new rest out) : Replaced old new (kept ++ rest) (kept ++ out) := by
  induction kept with
  | nil => exact after
  | cons c kept ih =>
      refine .keep (absent [] c kept rfl) (ih ?_)
      intro front d back split
      exact absent (c :: front) d back (congrArg (c :: ·) split)

/-- A character that the old text does not have is kept. -/
theorem cons_of_not_mem (nonempty : old ≠ []) {c : Char} {rest out : List Char} (other : c ∉ old)
    (after : Replaced old new rest out) : Replaced old new (c :: rest) (c :: out) := by
  refine .keep (fun start => ?_) after
  obtain ⟨d, old, rfl⟩ := List.exists_cons_of_ne_nil nonempty
  obtain rfl : d = c := (List.cons_prefix_cons.1 start).1
  exact other List.mem_cons_self

/-- A text that has no character of the old text is kept. -/
theorem append_of_not_mem (nonempty : old ≠ []) {kept rest out : List Char} (other : ∀ c ∈ kept, c ∉ old)
    (after : Replaced old new rest out) : Replaced old new (kept ++ rest) (kept ++ out) := by
  induction kept with
  | nil => exact after
  | cons c kept ih =>
      obtain ⟨first, others⟩ := List.forall_mem_cons.1 other
      exact cons_of_not_mem nonempty first (ih others)

end Replaced

/-! ### The replacing of strings -/

open String.Slice.Pattern String.Slice.Pattern.Model

/-- One step of a replacing: a match becomes the new text, and what is no match is kept. -/
def replaceStep (new : String) {s : String.Slice} (sofar : String) : SearchStep s → String
  | .matched .. => sofar ++ String.ToSlice.toSlice new
  | .rejected start stop => sofar ++ s.slice! start stop

/-- A slice has a position wherever it can be split. -/
theorem exists_splits {s : String.Slice} {before behind : String} (text : s.copy = before ++ behind) :
    ∃ pos : s.Pos, pos.Splits before behind :=
  have valid := String.Pos.Raw.isValidForSlice_iff_exists_append.2 ⟨before, behind, text, rfl⟩
  ⟨s.pos before.rawEndPos valid, text, String.Slice.offset_pos⟩

/-- Where the search rejects positions, the text between them has no place at which the old text starts. -/
theorem not_prefix_of_rejected {old : String} {s : String.Slice} {start stop : s.Pos}
    (rejected : ∀ pos, start ≤ pos → pos < stop → ¬ MatchesAt old pos) {before between behind : String}
    (at_start : start.Splits before (between ++ behind)) (at_stop : stop.Splits (before ++ between) behind)
    {front : List Char} {c : Char} {back : List Char} (split : between.toList = front ++ c :: back) :
    ¬ old.toList <+: c :: (back ++ behind.toList) := by
  rintro ⟨rest, starts⟩
  obtain rfl : between = String.ofList front ++ String.ofList (c :: back) := by
    rw [← String.toList_inj, split]
    simp
  have later : String.ofList (c :: back) ++ behind = old ++ String.ofList rest := by
    rw [← String.toList_inj]
    simp [starts]
  obtain ⟨pos, at_pos⟩ : ∃ pos : s.Pos, pos.Splits (before ++ String.ofList front) (old ++ String.ofList rest) :=
    exists_splits (by rw [at_start.eq_append, ← later]; simp only [String.append_assoc])
  refine rejected pos ?_ ?_ (ForwardStringSearcher.matchesAt_iff_splits.2 ⟨_, _, at_pos⟩)
  · refine (at_start.le_iff_exists_eq_append at_pos).2 ⟨String.ofList front, rfl, ?_⟩
    rw [← later, String.append_assoc]
  · refine (at_pos.lt_iff_exists_eq_append at_stop).2 ⟨String.ofList (c :: back), ?_, ?_, later.symm⟩
    · simp
    · simp only [String.append_assoc]

/-- The steps of a valid search from a position on replace the old text in what stands behind the position. -/
theorem replaced_steps {old : String} (new : String) {s : String.Slice} {pos : s.Pos}
    {steps : List (SearchStep s)} (valid : IsValidSearchFrom old pos steps) {before rest : String}
    (split : pos.Splits before rest) (sofar : String) :
    ∃ out, Replaced old.toList new.toList rest.toList out ∧
      (steps.foldl (replaceStep new) sofar).toList = sofar.toList ++ out := by
  induction valid generalizing before rest sofar with
  | endPos =>
      have last : rest = "" := split.eq_right s.splits_endPos
      subst last
      exact ⟨[], .nil, by simp⟩
  | matched hit _ ih =>
      obtain ⟨front, behind, at_start, at_stop⟩ := ForwardStringSearcher.isLongestMatchAt_iff_splits.1 hit
      cases split.eq_right at_start
      obtain ⟨out, replaced, folded⟩ := ih at_stop (sofar ++ new)
      refine ⟨new.toList ++ out, String.toList_append ▸ replaced.hit, ?_⟩
      rw [← List.append_assoc, ← String.toList_append, ← folded, List.foldl_cons, replaceStep,
        String.appendSlice_eq]
      simp [String.ToSlice.toSlice]
  | @mismatched _ start stop after rejected _ ih =>
      obtain ⟨front, behind, at_stop⟩ : ∃ front behind, stop.Splits front behind := ⟨_, _, stop.splits⟩
      obtain ⟨between, -, rfl, rfl⟩ := (split.lt_iff_exists_eq_append at_stop).1 after
      obtain ⟨out, replaced, folded⟩ := ih at_stop (sofar ++ between)
      refine ⟨between.toList ++ out, ?_, ?_⟩
      · rw [String.toList_append]
        refine Replaced.keep_all ?_ replaced
        intro front c back text
        exact not_prefix_of_rejected rejected split at_stop text
      · obtain ⟨ordered, copied⟩ := String.Slice.copy_slice_eq_iff_splits.2 ⟨_, _, split, at_stop⟩
        rw [← List.append_assoc, ← String.toList_append, ← folded, List.foldl_cons, replaceStep,
          ← String.Slice.slice_eq_slice! (h := ordered), String.appendSlice_eq, copied]

/-- The replacing of strings is the replacing from left to right. -/
theorem replaced_replace {old : String} (nonempty : old ≠ "") (new s : String) :
    Replaced old.toList new.toList s.toList (s.replace old new).toList := by
  have lawful := ForwardStringSearcher.lawfulToForwardSearcherModel nonempty
  have folds : s.replace old new =
      (ToForwardSearcher.toSearcher old s.toSlice).toList.foldl (replaceStep new) "" := by
    rw [Std.Iter.foldl_toList, String.replace, String.Slice.replace]
    congr 1
    funext sofar step
    cases step <;> rfl
  obtain ⟨out, replaced, folded⟩ :=
    replaced_steps new (lawful.isValidSearchFrom_toList s.toSlice) s.toSlice.splits_startPos ""
  rw [String.toList_empty, List.nil_append] at folded
  rw [folds, folded]
  simpa using replaced

end Unmark.Text
