import Mathlib.Data.List.Infix
import Mathlib.Tactic.SplitIfs
import Unmark.CommandLine.Separator

/-
Module: Unmark.Proofs.TypedSeparators
Layer: Proofs
Purpose: Separators as they are typed. What is typed for a separator is read back, whatever follows it, so
  there is a way to type each one. Only a backslash at the end of a part can go on in the next part: behind
  any other character the reading starts anew (`unescapeChars_append`), and so a run of backslashes pairs up
  from its first one, wherever it stands.
Main exports: unescape_escape, unescapeChars_append, backslashes, unescape_typed
-/

namespace Unmark.CommandLine

/-! ### Reading back what is typed for a separator -/

theorem unescapeChars_escapeChar (c : Char) (cs : List Char) :
    unescapeChars (escapeChar c ++ cs) = c :: unescapeChars cs := by
  unfold escapeChar
  split_ifs with line tab carriage backslash
  · subst line
    rfl
  · subst tab
    rfl
  · subst carriage
    rfl
  · subst backslash
    rfl
  · rw [List.singleton_append, unescapeChars.eq_5]
    all_goals
      intro rest same
      exact absurd same backslash

/-- What is typed for characters stands for them, and what follows is read by itself. -/
theorem unescapeChars_flatMap_escapeChar (cs rest : List Char) :
    unescapeChars (cs.flatMap escapeChar ++ rest) = cs ++ unescapeChars rest := by
  induction cs with
  | nil => rfl
  | cons c cs ih =>
      rw [List.flatMap_cons, List.append_assoc, unescapeChars_escapeChar, ih, List.cons_append]

/-- What is typed for a separator stands for it. -/
theorem unescape_escape (s : String) : unescape (escape s) = s := by
  have chars : unescapeChars (s.toList.flatMap escapeChar) = s.toList := by
    simpa [unescapeChars] using unescapeChars_flatMap_escapeChar s.toList []
  rw [unescape, escape, String.toList_ofList, chars, String.ofList_toList]

/-- Two hyphens are typed as they are. -/
theorem escape_eq_hyphens_iff {s : String} : escape s = "--" ↔ s = "--" := by
  constructor
  · intro typed
    rw [← unescape_escape s, typed]
    decide
  · intro same
    rw [same]
    decide

/-! ### Reading any text -/

/-- Somewhere in a text stand a backslash and a character that it escapes. -/
def HasEscape (cs : List Char) : Prop := ∃ e ∈ ['n', 't', 'r', '\\'], ['\\', e] <:+: cs

theorem length_unescapeChars_le (cs : List Char) : (unescapeChars cs).length ≤ cs.length := by
  induction cs using unescapeChars.induct with
  | case1 cs ih | case2 cs ih | case3 cs ih | case4 cs ih =>
      rw [unescapeChars, List.length_cons, List.length_cons, List.length_cons]
      omega
  | case5 c cs no_n no_t no_r no_backslash ih =>
      rw [unescapeChars.eq_5 c cs no_n no_t no_r no_backslash, List.length_cons, List.length_cons]
      omega
  | case6 => exact Nat.le_refl 0

/-- A typed text stands for itself exactly if it has no escape. -/
theorem unescapeChars_eq_self_iff (cs : List Char) : unescapeChars cs = cs ↔ ¬ HasEscape cs := by
  have here : ∀ (e : Char) (cs : List Char), e ∈ ['n', 't', 'r', '\\'] → HasEscape ('\\' :: e :: cs) :=
    fun e cs mem => ⟨e, mem, ⟨[], cs, rfl⟩⟩
  induction cs using unescapeChars.induct with
  | case1 cs | case2 cs | case3 cs =>
      rw [unescapeChars]
      refine iff_of_false ?_ (not_not_intro (here _ cs (by decide)))
      intro same
      exact absurd (List.cons.inj same).1 (by decide)
  | case4 cs =>
      rw [unescapeChars]
      refine iff_of_false ?_ (not_not_intro (here _ cs (by decide)))
      intro same
      have shorter := length_unescapeChars_le cs
      have longer := congrArg List.length same
      rw [List.length_cons, List.length_cons, List.length_cons] at longer
      omega
  | case5 c cs no_n no_t no_r no_backslash ih =>
      have behind : HasEscape (c :: cs) ↔ HasEscape cs := by
        unfold HasEscape
        constructor
        · rintro ⟨e, mem, escape⟩
          refine ⟨e, mem, (List.infix_cons_iff.1 escape).resolve_left ?_⟩
          rintro ⟨rest, front⟩
          obtain ⟨rfl, rfl⟩ := List.cons.inj front
          simp only [List.mem_cons, List.not_mem_nil, or_false] at mem
          rcases mem with rfl | rfl | rfl | rfl
          · exact no_n rest rfl rfl
          · exact no_t rest rfl rfl
          · exact no_r rest rfl rfl
          · exact no_backslash rest rfl rfl
        · rintro ⟨e, mem, escape⟩
          exact ⟨e, mem, List.infix_cons_iff.2 (.inr escape)⟩
      rw [unescapeChars.eq_5 c cs no_n no_t no_r no_backslash, behind]
      refine Iff.trans ?_ ih
      constructor
      · intro same
        exact (List.cons.inj same).2
      · intro same
        rw [same]
  | case6 =>
      refine iff_of_true rfl ?_
      rintro ⟨e, -, escape⟩
      cases List.infix_nil.1 escape

/-- Without backslashes nothing stands for anything else. -/
theorem unescapeChars_of_not_mem {cs : List Char} (plain : '\\' ∉ cs) : unescapeChars cs = cs := by
  apply (unescapeChars_eq_self_iff cs).2
  rintro ⟨e, -, escape⟩
  exact plain (escape.subset List.mem_cons_self)

/-- Every step of the reading gives a character, so only the empty text stands for the empty one. -/
theorem unescapeChars_eq_nil_iff {cs : List Char} : unescapeChars cs = [] ↔ cs = [] := by
  fun_cases unescapeChars cs <;> simp

/-- Behind a part that does not end in a backslash the reading starts anew. -/
theorem unescapeChars_append {cs : List Char} (ended : cs.getLast? ≠ some '\\') (rest : List Char) :
    unescapeChars (cs ++ rest) = unescapeChars cs ++ unescapeChars rest := by
  have behind : ∀ {c : Char} {cs : List Char}, (c :: cs).getLast? ≠ some '\\' → cs.getLast? ≠ some '\\' := by
    intro c cs ended last
    rw [List.getLast?_cons, last] at ended
    exact ended rfl
  induction cs using unescapeChars.induct with
  | case1 cs ih | case2 cs ih | case3 cs ih | case4 cs ih =>
      have parts := ih (behind (behind ended))
      simp only [List.cons_append, unescapeChars, parts]
  | case5 c cs no_n no_t no_r no_backslash ih =>
      -- A lone backslash has a character behind it, so `rest` does not complete an escape.
      have lone : ∀ {e : Char} (more : List Char), (∀ more', c = '\\' → cs = e :: more' → False) →
          c = '\\' → cs ++ rest = e :: more → False := by
        intro e more none backslash same
        cases cs with
        | nil =>
            rw [backslash] at ended
            exact ended rfl
        | cons d cs =>
            rw [List.cons_append, List.cons.injEq] at same
            apply none cs backslash
            rw [same.1]
      rw [List.cons_append, unescapeChars.eq_5 c cs no_n no_t no_r no_backslash, List.cons_append,
        unescapeChars.eq_5 c (cs ++ rest) (fun more => lone more no_n) (fun more => lone more no_t)
          (fun more => lone more no_r) (fun more => lone more no_backslash), ih (behind ended)]
  | case6 => rfl

/-- A text of backslashes only. -/
def backslashes (n : Nat) : String := String.ofList (List.replicate n '\\')

/-- A run of backslashes pairs up from its first one. -/
theorem unescapeChars_replicate (k : Nat) (rest : List Char) :
    unescapeChars (List.replicate (2 * k) '\\' ++ rest) = List.replicate k '\\' ++ unescapeChars rest := by
  have doubled : (List.replicate k '\\').flatMap escapeChar = List.replicate (2 * k) '\\' := by
    induction k with
    | zero => rfl
    | succ k ih =>
        rw [List.replicate_succ, List.flatMap_cons, ih]
        rfl
  rw [← doubled, unescapeChars_flatMap_escapeChar]

/-- Every separator can be typed: what is typed for it is read back. A text without backslashes stands for
    itself, and only the empty text stands for the empty one. In a run of backslashes, wherever it stands,
    each two from its first one on are one backslash, and what follows these pairs is read by itself: an
    escaped backslash is no part of another escape. -/
theorem unescape_typed :
    (∀ s, unescape (escape s) = s) ∧
    (∀ v, '\\' ∉ v.toList → unescape v = v) ∧
    (∀ v, unescape v = "" ↔ v = "") ∧
    ∀ (u v : String) (k : Nat), u.toList.getLast? ≠ some '\\' →
      unescape (u ++ backslashes (2 * k) ++ v) = unescape u ++ backslashes k ++ unescape v := by
  refine ⟨unescape_escape, ?_, ?_, ?_⟩
  · intro v plain
    rw [unescape, unescapeChars_of_not_mem plain, String.ofList_toList]
  · intro v
    rw [unescape, String.ofList_eq_empty_iff, unescapeChars_eq_nil_iff, String.toList_eq_nil_iff]
  · intro u v k ended
    have parts : unescapeChars (u.toList ++ (List.replicate (2 * k) '\\' ++ v.toList)) =
        unescapeChars u.toList ++ (List.replicate k '\\' ++ unescapeChars v.toList) := by
      rw [unescapeChars_append ended, unescapeChars_replicate]
    rw [unescape, backslashes, String.append_assoc, String.toList_append, String.toList_append,
      String.toList_ofList, parts, String.ofList_append, String.ofList_append, ← String.append_assoc]
    rfl

/-- Five backslashes and a letter, behind a backslash that escapes nothing: two pairs, then an escape. -/
theorem unescape_typed_run :
    ('\\' ∉ "-\t-".toList ∧ unescape "-\t-" = "-\t-") ∧
    "\\q".toList.getLast? ≠ some '\\' ∧ unescape "\\q\\\\\\\\\\n" = "\\q\\\\\n" := by
  obtain ⟨-, plain, -, run⟩ := unescape_typed
  have pairs := run "\\q" "\\n" 2 (by decide)
  refine ⟨⟨by decide, plain "-\t-" (by decide)⟩, by decide, ?_⟩
  calc unescape "\\q\\\\\\\\\\n" = unescape ("\\q" ++ backslashes (2 * 2) ++ "\\n") := by decide
    _ = unescape "\\q" ++ backslashes 2 ++ unescape "\\n" := pairs
    _ = "\\q\\\\\n" := by decide

end Unmark.CommandLine
