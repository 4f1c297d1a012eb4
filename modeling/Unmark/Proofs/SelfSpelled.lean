import Mathlib.Data.List.Infix
import Mathlib.Data.List.TakeWhile
import Mathlib.Tactic.SplitIfs
import Unmark.Markdown.Entity
import Unmark.Text.Punctuation

/-
Module: Unmark.Proofs.SelfSpelled
Layer: Proofs
Purpose: Texts that stay as they are when their character references are replaced. A reference is replaced by
  its own spelling when its name does not even start with a known one, and by something shorter otherwise. So
  a text stays as it is exactly when all references in it are of the first kind; texts without ampersands and
  texts of punctuation alone are such texts.
Main exports: SelfSpelled, reference?_cases, decode_eq_self_iff, selfSpelled_of_no_ampersand,
  selfSpelled_of_punctuation
-/

namespace Unmark.Markdown.Entity

open Text (isAsciiPunctuation)

/-- Every reference in a text stands for its own spelling. -/
def SelfSpelled (cs : List Char) : Prop :=
  ∀ rest, ('&' :: rest) <:+ cs → ∀ text after, reference? rest = some (text, after) →
    text ++ after = '&' :: rest

variable {cs text rest name : List Char}

/-! ### What a reference stands for -/

theorem length_ofNumber_le (n : Nat) : (ofNumber n).length ≤ 1 := by
  unfold ofNumber
  split_ifs <;> simp

/-- Whether the first byte of a name is that of a letter. The tables are gone through by this, since the bytes
    of a name are at hand. -/
def startsWithLetter (s : String) : Bool :=
  s.toByteArray.data.toList.head?.any fun b => (65 ≤ b.toNat && b.toNat ≤ 90) || (97 ≤ b.toNat && b.toNat ≤ 122)

theorem firstByte_ofList {c : Char} (ascii : c.toNat < 128) (cs : List Char) :
    (String.ofList (c :: cs)).toByteArray.data.toList.head? = some (UInt8.ofNat c.toNat) := by
  have small : c.val.toNat ≤ 127 := Nat.le_of_lt_succ ascii
  rw [String.toByteArray_ofList, List.utf8Encode, List.flatMap_cons, String.utf8EncodeChar]
  simp only [if_pos small]
  simp

/-- What starts with a letter starts with no mark. -/
theorem exists_cons_of_startsWithLetter {s : String} (letter : startsWithLetter s = true) :
    ∃ c cs, s.toList = c :: cs ∧ isAsciiPunctuation c = false := by
  cases spelled : s.toList with
  | nil =>
      obtain rfl : s = "" := String.toList_eq_nil_iff.1 spelled
      exact absurd letter (by decide)
  | cons c cs =>
      refine ⟨c, cs, rfl, Bool.eq_false_iff.2 fun mark => ?_⟩
      obtain rfl : s = String.ofList (c :: cs) := by rw [← spelled, String.ofList_toList]
      simp only [isAsciiPunctuation, Bool.or_eq_true, Bool.and_eq_true, decide_eq_true_eq] at mark
      rw [startsWithLetter, firstByte_ofList (by omega)] at letter
      simp only [Option.any_some, UInt8.toNat_ofNat', Bool.or_eq_true, Bool.and_eq_true,
        decide_eq_true_eq] at letter
      omega

/-- Names of the tables start with a letter, and stand for one or two characters. -/
theorem fullNames_entry : ∀ names ∈ fullNames, ∀ e ∈ names, startsWithLetter e.1 = true ∧ e.2.length ≤ 2 := by
  decide +kernel

theorem cutNames_entry : ∀ e ∈ cutNames, startsWithLetter e.1 = true := by
  decide +kernel

/-- A name that does not start with a mark. -/
def Unmarked (name : List Char) : Prop := ∃ c cs, name = c :: cs ∧ isAsciiPunctuation c = false

/-- A known name that may be cut short stands for one character. -/
theorem cutName?_eq_some (known : cutName? name = some text) : Unmarked name ∧ text.length = 1 := by
  rw [cutName?, Option.map_eq_some_iff] at known
  obtain ⟨e, found, rfl⟩ := known
  have same : e.1.toList = name := by simpa using List.find?_some found
  exact ⟨same ▸ exists_cons_of_startsWithLetter (cutNames_entry e (List.mem_of_find?_eq_some found)), rfl⟩

/-- A known name stands for two characters at most. -/
theorem wholeName?_eq_some (known : wholeName? name = some text) : Unmarked name ∧ text.length ≤ 2 := by
  rw [wholeName?, Option.or_eq_some_iff] at known
  rcases known with short | ⟨-, full⟩
  · obtain ⟨unmarked, one⟩ := cutName?_eq_some short
    exact ⟨unmarked, by omega⟩
  · rw [Option.map_eq_some_iff] at full
    obtain ⟨e, found, rfl⟩ := full
    obtain ⟨names, listed, found⟩ := List.exists_of_findSome?_eq_some found
    have same : e.1.toList = name := by simpa using List.find?_some found
    obtain ⟨letter, two⟩ := fullNames_entry names listed e (List.mem_of_find?_eq_some found)
    exact ⟨same ▸ exists_cons_of_startsWithLetter letter, by simpa using two⟩

/-- What starts with a known name does not get longer. -/
theorem ofNameStart?_eq_some {length : Nat} (known : ofNameStart? name length = some text) :
    Unmarked name ∧ text.length ≤ name.length := by
  induction length with
  | zero => simp [ofNameStart?] at known
  | succ length ih =>
      cases length with
      | zero => simp [ofNameStart?] at known
      | succ length =>
          rw [ofNameStart?] at known
          · cases cut : cutName? (name.take (length + 1 + 1)) with
            | none => exact ih (by simpa [cut] using known)
            | some start =>
                obtain ⟨⟨c, cs, taken, unmarked⟩, one⟩ := cutName?_eq_some cut
                simp only [cut, Option.some.injEq] at known
                cases name with
                | nil => simp at taken
                | cons d name =>
                    obtain ⟨rfl, -⟩ := List.cons_eq_cons.1 taken
                    refine ⟨⟨d, name, rfl, unmarked⟩, ?_⟩
                    rw [← known, List.length_append, one, List.length_drop, List.length_cons]
                    omega
          · exact Nat.succ_ne_zero length

/-- A name stands for its own spelling, or it starts with no mark and stands for something shorter than this. -/
theorem ofName_cases (name : List Char) :
    ofName name = '&' :: name ++ [';'] ∨ Unmarked name ∧ (ofName name).length ≤ name.length + 1 := by
  unfold ofName
  cases whole : wholeName? name with
  | some text =>
      obtain ⟨unmarked, two⟩ := wholeName?_eq_some whole
      obtain ⟨c, cs, rfl, -⟩ := id unmarked
      refine .inr ⟨unmarked, ?_⟩
      simp
      omega
  | none =>
      cases start : ofNameStart? name name.length with
      | none => exact .inl rfl
      | some text =>
          obtain ⟨unmarked, short⟩ := ofNameStart?_eq_some start
          exact .inr ⟨unmarked, by simpa using short⟩

theorem afterSemicolon?_eq_some (found : afterSemicolon? cs = some rest) : cs = ';' :: rest := by
  unfold afterSemicolon? at found
  split at found <;> cases found
  rfl

/-- What remains behind a semicolon that stands behind the start of a text. -/
theorem length_lt_of_afterSemicolon? {n : Nat} (found : afterSemicolon? (cs.drop n) = some rest) :
    rest.length < cs.length := by
  have behind := congrArg List.length (afterSemicolon?_eq_some found)
  rw [List.length_drop, List.length_cons] at behind
  omega

/-- The start of a text of some class, a semicolon behind it, and the rest. -/
theorem eq_of_afterSemicolon? {p : Char → Bool}
    (found : afterSemicolon? (cs.drop (cs.takeWhile p).length) = some rest) :
    cs = cs.takeWhile p ++ ';' :: rest := by
  have split := List.prefix_append_drop (List.takeWhile_prefix (l := cs) p)
  rwa [afterSemicolon?_eq_some found] at split

theorem isAsciiPunctuation_of_digit {c : Char} (digit : ('0' ≤ c && c ≤ '9') = true) :
    isAsciiPunctuation c = false := by
  simp only [Bool.and_eq_true, decide_eq_true_eq, Char.le_def, UInt32.le_iff_toNat_le] at digit
  change 48 ≤ c.toNat ∧ c.toNat ≤ 57 at digit
  rw [Bool.eq_false_iff]
  intro mark
  simp only [isAsciiPunctuation, Bool.or_eq_true, Bool.and_eq_true, decide_eq_true_eq] at mark
  omega

/-- A reference stands for its own spelling, or for something shorter; then it does not hold marks alone. -/
theorem reference?_cases (found : reference? cs = some (text, rest)) :
    (∃ name, '&' ∉ name ∧ text = '&' :: name ++ [';'] ∧ cs = name ++ ';' :: rest) ∨
      (∃ c ∈ cs, isAsciiPunctuation c = false) ∧ text.length + rest.length ≤ cs.length := by
  unfold reference? at found
  split at found
  · right
    split at found
    · rename_i x digits
      dsimp only at found
      split_ifs at found with hex none_here decimal
      · rw [Option.map_eq_some_iff] at found
        obtain ⟨after, behind, same⟩ := found
        cases same
        have shorter := length_lt_of_afterSemicolon? behind
        have one := length_ofNumber_le (number 16 (digits.takeWhile fun c => (hexValue? c).isSome))
        refine ⟨⟨x, by simp, ?_⟩, by simp; omega⟩
        rcases hex with rfl | rfl <;> rfl
      · rw [Option.map_eq_some_iff] at found
        obtain ⟨after, behind, same⟩ := found
        cases same
        have shorter := length_lt_of_afterSemicolon? behind
        have one := length_ofNumber_le (number 10 ((x :: digits).takeWhile fun c => '0' ≤ c && c ≤ '9'))
        refine ⟨⟨x, by simp, ?_⟩, by simp at shorter ⊢; omega⟩
        -- The first of the digits stands right behind the number sign.
        cases digit : ('0' ≤ x && x ≤ '9') with
        | true => exact isAsciiPunctuation_of_digit digit
        | false => simp [digit] at decimal
    · cases found
  · dsimp only at found
    split_ifs at found with unnamed
    rw [Option.map_eq_some_iff] at found
    obtain ⟨after, behind, same⟩ := found
    cases same
    have split := eq_of_afterSemicolon? behind
    rcases ofName_cases (cs.takeWhile isNameChar) with own | ⟨⟨c, name, first, unmarked⟩, shorter⟩
    · left
      refine ⟨cs.takeWhile isNameChar, fun mem => ?_, own, split⟩
      exact absurd (List.mem_takeWhile_imp mem) (by decide)
    · right
      have whole := congrArg List.length split
      rw [List.length_append, List.length_cons] at whole
      refine ⟨⟨c, ?_, unmarked⟩, by omega⟩
      exact (List.takeWhile_prefix isNameChar).subset (first ▸ List.mem_cons_self)

/-! ### Texts that stay as they are -/

theorem SelfSpelled.of_suffix (spelled : SelfSpelled cs) (suffix : rest <:+ cs) : SelfSpelled rest :=
  fun _ within => spelled _ (within.trans suffix)

theorem selfSpelled_nil : SelfSpelled [] := by
  intro rest suffix
  simp at suffix

theorem SelfSpelled.cons {c : Char} (spelled : SelfSpelled cs)
    (here : c = '&' → ∀ text after, reference? cs = some (text, after) → text ++ after = '&' :: cs) :
    SelfSpelled (c :: cs) := by
  intro rest suffix
  rcases List.suffix_cons_iff.1 suffix with same | within
  · obtain ⟨rfl, rfl⟩ := List.cons_eq_cons.1 same
    exact here rfl
  · exact spelled rest within

theorem SelfSpelled.append {front back : List Char} (plain : '&' ∉ front) (spelled : SelfSpelled back) :
    SelfSpelled (front ++ back) := by
  induction front with
  | nil => exact spelled
  | cons c front ih =>
      rw [List.mem_cons, not_or] at plain
      exact (ih plain.2).cons fun here => absurd here.symm plain.1

theorem selfSpelled_of_no_ampersand (plain : '&' ∉ cs) : SelfSpelled cs := by
  have whole := selfSpelled_nil.append plain
  rwa [List.append_nil] at whole

/-- In a text of marks alone every reference stands for its own spelling. -/
theorem selfSpelled_of_punctuation (marks : ∀ c ∈ cs, isAsciiPunctuation c = true) : SelfSpelled cs := by
  intro rest suffix text after found
  rcases reference?_cases found with ⟨name, -, rfl, rfl⟩ | ⟨⟨c, mem, unmarked⟩, -⟩
  · simp
  · have mark := marks c (suffix.subset (List.mem_cons_of_mem _ mem))
    rw [unmarked] at mark
    cases mark

/-- A text that is spelled out stays as it is, however much of it is looked at. -/
theorem SelfSpelled.decodeFrom_eq (spelled : SelfSpelled cs) (fuel : Nat) : decodeFrom fuel cs = cs := by
  induction fuel generalizing cs with
  | zero => rw [decodeFrom]
  | succ fuel ih =>
      cases cs with
      | nil => rw [decodeFrom]
      | cons c cs =>
          have later := ih (spelled.of_suffix (List.suffix_cons c cs))
          rw [decodeFrom]
          split_ifs with ampersand
          · subst ampersand
            cases found : reference? cs with
            | none => simp [later]
            | some reading =>
                obtain ⟨text, after⟩ := reading
                have own := spelled cs (List.suffix_refl _) text after found
                have behind : after <:+ '&' :: cs := ⟨text, own⟩
                simp only [ih (spelled.of_suffix behind), own]
          · rw [later]

/-- Replacing references never makes a text longer. -/
theorem length_decodeFrom_le (fuel : Nat) (cs : List Char) : (decodeFrom fuel cs).length ≤ cs.length := by
  induction fuel generalizing cs with
  | zero => rw [decodeFrom]
  | succ fuel ih =>
      cases cs with
      | nil => rw [decodeFrom]
      | cons c cs =>
          have later := ih cs
          rw [decodeFrom]
          split_ifs
          · cases found : reference? cs with
            | none => simpa using later
            | some reading =>
                obtain ⟨text, after⟩ := reading
                have behind := ih after
                rw [List.length_append, List.length_cons]
                rcases reference?_cases found with ⟨name, -, rfl, rfl⟩ | ⟨-, shorter⟩
                · simp
                  omega
                · omega
          · simpa using later

/-- A text that stays as it is has been spelled out. -/
theorem selfSpelled_of_decodeFrom_eq {fuel : Nat} (enough : cs.length ≤ fuel)
    (same : decodeFrom fuel cs = cs) : SelfSpelled cs := by
  induction fuel generalizing cs with
  | zero =>
      obtain rfl := List.eq_nil_of_length_eq_zero (Nat.le_zero.1 enough)
      exact selfSpelled_nil
  | succ fuel ih =>
      cases cs with
      | nil => exact selfSpelled_nil
      | cons c cs =>
          rw [List.length_cons, Nat.add_le_add_iff_right] at enough
          rw [decodeFrom] at same
          split_ifs at same with ampersand
          · subst ampersand
            cases found : reference? cs with
            | none =>
                simp only [found, List.cons.injEq, true_and] at same
                exact (ih enough same).cons fun _ text after read => by simp [found] at read
            | some reading =>
                obtain ⟨text, after⟩ := reading
                simp only [found] at same
                rcases reference?_cases found with ⟨name, plain, rfl, rfl⟩ | ⟨-, shorter⟩
                · -- The spelling of the reference holds no further ampersand, so what is left is spelled out.
                  have behind : decodeFrom fuel after = after := by simpa using same
                  have short : after.length ≤ fuel := by simp at enough; omega
                  have later : SelfSpelled ((name ++ [';']) ++ after) :=
                    (ih short behind).append (by simpa using plain)
                  rw [List.append_assoc, List.singleton_append] at later
                  refine later.cons fun _ text' after' read => ?_
                  cases found.symm.trans read
                  simp
                · have longer := congrArg List.length same
                  have most := length_decodeFrom_le fuel after
                  rw [List.length_append, List.length_cons] at longer
                  omega
          · rw [List.cons.injEq] at same
            exact (ih enough same.2).cons fun here => absurd here ampersand

/-- A text stays as it is exactly when every reference in it stands for its own spelling. -/
theorem decodeChars_eq_self_iff : decodeChars cs = cs ↔ SelfSpelled cs :=
  ⟨selfSpelled_of_decodeFrom_eq (Nat.le_refl _), fun spelled => spelled.decodeFrom_eq _⟩

theorem decode_eq_self_iff : decode (String.ofList cs) = String.ofList cs ↔ SelfSpelled cs := by
  rw [decode, String.toList_ofList, String.ofList_inj, decodeChars_eq_self_iff]

end Unmark.Markdown.Entity
