import Unmark.Proofs.JsonText

/-
Module: Unmark.Proofs.JsonFaults
Layer: Proofs
Purpose: How far a reader of JSON goes, and when it meets an integer that is too long. Each reader leaves a
  suffix of its text when it succeeds. So what a reader inside another one meets is a part of the whole text,
  and a fault for a long integer leads to that many digits in a row in it. Since every step goes further, the fuel
  of the readers lasts for the whole text and never decides what is read or which fault is found.
Main exports: LongRun, Leaves, leaves_value, longRun_of_read, string_fuel, value_fuel
-/

namespace Unmark.Json

/-! ### What a reader does with a text -/

/-- A text has so many digits in a row, which are more than an integer may have. -/
structure LongRun (n : Nat) (cs : List Char) : Prop where
  long : digitLimit < n
  run : ∃ ds, ds <:+: cs ∧ ds.length = n ∧ ∀ c ∈ ds, isDigit c = true

theorem LongRun.of_suffix {n : Nat} {part cs : List Char} (found : LongRun n part) (suffix : part <:+ cs) :
    LongRun n cs := by
  obtain ⟨long, ds, within, rest⟩ := found
  exact ⟨long, ds, within.trans suffix.isInfix, rest⟩

/-- A reader that succeeds leaves a suffix of its text, and one that stops at a long integer has met its
    digits in the text. -/
def Leaves {α : Type} (cs : List Char) : Except Fault (α × List Char) → Prop
  | .ok (_, rest) => rest <:+ cs
  | .error f => ∀ n, f = .longInteger n → LongRun n cs

section Leaves

variable {α β : Type} {cs part : List Char}

theorem leaves_error {f : Fault} (other : ∀ n, f ≠ .longInteger n) :
    Leaves cs (.error f : Except Fault (α × List Char)) := fun n same => absurd same (other n)

/-- A reader of a part of a text is a reader of the text. -/
theorem Leaves.of_suffix {r : Except Fault (α × List Char)} (leaves : Leaves part r) (suffix : part <:+ cs) :
    Leaves cs r := by
  cases r with
  | error f => exact fun n same => (leaves n same).of_suffix suffix
  | ok found => exact List.IsSuffix.trans leaves suffix

/-- The fault of a reader may become the fault of another one that calls it. -/
theorem Leaves.error {r : Except Fault (α × List Char)} (leaves : Leaves cs r) {f : Fault}
    (failed : r = .error f) : Leaves cs (.error f : Except Fault (β × List Char)) := by
  rw [failed] at leaves
  exact leaves

theorem Leaves.suffix {r : Except Fault (α × List Char)} (leaves : Leaves cs r) {a : α} {rest : List Char}
    (found : r = .ok (a, rest)) : rest <:+ cs := by
  rw [found] at leaves
  exact leaves

end Leaves

theorem suffix_skipBlank (cs : List Char) : skipBlank cs <:+ cs := List.dropWhile_suffix isBlank

theorem suffix_of_skipBlank {c : Char} {cs rest : List Char} (skipped : skipBlank cs = c :: rest) :
    rest <:+ cs := (List.suffix_cons c rest).trans (skipped ▸ suffix_skipBlank cs)

/-! ### Strings -/

theorem suffix_of_hexQuad? {cs rest : List Char} {n : Nat} (quad : hexQuad? cs = some (n, rest)) :
    rest <:+ cs := by
  unfold hexQuad? at quad
  split at quad
  case h_1 a b c d tail =>
    simp only [Option.bind_eq_bind, Option.bind_eq_some_iff, Option.pure_def, Option.some.injEq,
      Prod.mk.injEq] at quad
    obtain ⟨_, _, _, _, _, _, _, _, -, rfl⟩ := quad
    exact ⟨[a, b, c, d], rfl⟩
  case h_2 => cases quad

theorem suffix_of_secondHalf {cs rest : List Char} {n : Nat} (half : secondHalf cs = .ok (some (n, rest))) :
    rest <:+ cs := by
  unfold secondHalf at half
  split at half
  case h_1 tail =>
    split at half
    · cases half
    · split at half
      · cases half
      · rename_i m rest' quad
        split at half <;> cases half
        exact (suffix_of_hexQuad? quad).trans ⟨['\\', 'u'], rfl⟩
  case h_2 => cases half

theorem secondHalf_ne_longInteger {cs : List Char} {n : Nat} : secondHalf cs ≠ .error (.longInteger n) := by
  intro half
  unfold secondHalf at half
  split at half
  · split at half
    · cases half
    · split at half <;> cases half
  · cases half

theorem leaves_unicodeEscape (plane : Nat) (cs : List Char) : Leaves cs (unicodeEscape plane cs) := by
  unfold unicodeEscape
  split
  · exact leaves_error fun n => Fault.noConfusion
  · split
    · exact leaves_error fun n => Fault.noConfusion
    · rename_i n rest quad
      have behind := suffix_of_hexQuad? quad
      split
      · split
        · rename_i f half
          exact leaves_error fun n same => secondHalf_ne_longInteger (same ▸ half)
        · exact behind
        · rename_i m rest' half
          exact (suffix_of_secondHalf half).trans behind
      · exact behind

theorem leaves_readString (plane : Nat) : ∀ (fuel : Nat) (acc cs : List Char),
    Leaves cs (readString plane fuel acc cs)
  | 0, _, _ => leaves_error fun n => Fault.noConfusion
  | _ + 1, _, [] => leaves_error fun n => Fault.noConfusion
  | fuel + 1, acc, c :: cs => by
      unfold readString
      split
      · exact List.suffix_cons c cs
      · split
        · split
          · exact leaves_error fun n => Fault.noConfusion
          · rename_i tail
            have escape := leaves_unicodeEscape plane tail
            have behind : tail <:+ c :: 'u' :: tail := ⟨[c, 'u'], rfl⟩
            split
            · rename_i f failed
              exact (escape.error failed).of_suffix behind
            · rename_i d rest found
              exact (leaves_readString plane fuel (d :: acc) rest).of_suffix ((escape.suffix found).trans behind)
          · rename_i e tail _
            split
            · exact leaves_error fun n => Fault.noConfusion
            · exact (leaves_readString plane fuel _ tail).of_suffix ⟨[c, e], rfl⟩
        · split
          · exact leaves_error fun n => Fault.noConfusion
          · exact (leaves_readString plane fuel (c :: acc) cs).of_suffix (List.suffix_cons c cs)

theorem leaves_string (plane : Nat) (cs : List Char) : Leaves cs (string plane cs) := by
  have read := leaves_readString plane (cs.length + 1) [] cs
  unfold string
  split
  · rename_i f failed
    exact read.error failed
  · rename_i s rest found
    exact read.suffix found

/-! ### Numbers -/

theorem suffix_signPart (cs : List Char) : (signPart cs).2 <:+ cs := by
  unfold signPart
  split
  · exact List.suffix_cons _ _
  · exact List.suffix_rfl

theorem suffix_wholeDigits (cs : List Char) : (wholeDigits cs).2 <:+ cs := by
  unfold wholeDigits
  split
  · exact List.suffix_cons _ _
  · exact List.dropWhile_suffix isDigit

/-- The digits of a whole number stand in the text. -/
theorem wholeDigits_infix (cs : List Char) :
    (wholeDigits cs).1 <:+: cs ∧ ∀ c ∈ (wholeDigits cs).1, isDigit c = true := by
  unfold wholeDigits
  split
  · refine ⟨⟨[], _, rfl⟩, ?_⟩
    intro c mem
    rw [List.mem_singleton.1 mem]
    rfl
  · exact ⟨(List.takeWhile_prefix isDigit).isInfix, List.all_eq_true.1 List.all_takeWhile⟩

theorem suffix_fractionDigits (cs : List Char) : (fractionDigits cs).2 <:+ cs := by
  unfold fractionDigits
  split
  · split
    · exact List.suffix_rfl
    · exact (List.dropWhile_suffix isDigit).trans (List.suffix_cons _ _)
  · exact List.suffix_rfl

theorem suffix_exponentPart (cs : List Char) : (exponentPart cs).2 <:+ cs := by
  unfold exponentPart
  split
  · rename_i e rest
    have behind : rest <:+ e :: rest := List.suffix_cons e rest
    split
    · split
      rename_i negative digits signed
      -- A sign may stand in front of the digits.
      have suffix : digits <:+ rest := by
        split at signed <;> cases signed
        · exact List.suffix_cons _ _
        · exact List.suffix_cons _ _
        · exact List.suffix_rfl
      split
      · exact List.suffix_rfl
      · exact (List.dropWhile_suffix isDigit).trans (suffix.trans behind)
    · exact List.suffix_rfl
  · exact List.suffix_rfl

theorem leaves_number (cs : List Char) : Leaves cs (number cs) := by
  have sign := suffix_signPart cs
  have whole := (suffix_wholeDigits (signPart cs).2).trans sign
  have digits := wholeDigits_infix (signPart cs).2
  have fraction := (suffix_fractionDigits (wholeDigits (signPart cs).2).2).trans whole
  have exponent := (suffix_exponentPart (fractionDigits (wholeDigits (signPart cs).2).2).2).trans fraction
  unfold number
  dsimp only
  split
  · exact leaves_error fun n => Fault.noConfusion
  · split
    · split
      · rename_i long
        intro n same
        cases same
        exact ⟨long, _, digits.1.trans sign.isInfix, rfl, digits.2⟩
      · exact exponent
    · exact exponent

/-! ### Values -/

theorem suffix_of_after? {lead cs rest : List Char} (after : Text.after? lead cs = some rest) :
    rest <:+ cs := by
  induction lead generalizing cs with
  | nil =>
      cases after
      exact List.suffix_rfl
  | cons c lead ih =>
      cases cs with
      | nil => cases after
      | cons d cs =>
          unfold Text.after? at after
          split at after
          · exact (ih after).trans (List.suffix_cons d cs)
          · cases after

theorem suffix_of_word? {cs rest : List Char} {d : Data} (found : word? cs = some (d, rest)) :
    rest <:+ cs := by
  obtain ⟨word, -, here⟩ := List.exists_of_findSome?_eq_some found
  obtain ⟨rest', after, same⟩ := Option.map_eq_some_iff.1 here
  cases same
  exact suffix_of_after? after

mutual

theorem leaves_value (plane : Nat) : ∀ (fuel : Nat) (cs : List Char), Leaves cs (value plane fuel cs)
  | 0, _ => leaves_error fun n => Fault.noConfusion
  | fuel + 1, cs => by
      unfold value
      split
      · rename_i tail
        have behind := List.suffix_cons '\x22' tail
        have read := leaves_string plane tail
        split
        · rename_i f failed
          exact (read.error failed).of_suffix behind
        · rename_i s rest found
          exact (read.suffix found).trans behind
      · rename_i tail
        have behind := List.suffix_cons '\x7b' tail
        split
        · rename_i rest closed
          exact (suffix_of_skipBlank closed).trans behind
        · have read := (leaves_members plane fuel [] (skipBlank tail)).of_suffix (suffix_skipBlank tail)
          split
          · rename_i f failed
            exact (read.error failed).of_suffix behind
          · rename_i es rest found
            exact (read.suffix found).trans behind
      · rename_i tail
        have behind := List.suffix_cons '[' tail
        split
        · rename_i rest closed
          exact (suffix_of_skipBlank closed).trans behind
        · have read := (leaves_elements plane fuel (skipBlank tail)).of_suffix (suffix_skipBlank tail)
          split
          · rename_i f failed
            exact (read.error failed).of_suffix behind
          · rename_i ds rest found
            exact (read.suffix found).trans behind
      · split
        · rename_i found word
          exact suffix_of_word? word
        · exact leaves_number cs

theorem leaves_members (plane : Nat) : ∀ (fuel : Nat) (acc : List (Data × Data)) (cs : List Char),
    Leaves cs (members plane fuel acc cs)
  | 0, _, _ => leaves_error fun n => Fault.noConfusion
  | fuel + 1, acc, cs => by
      unfold members
      split
      · rename_i tail
        have behind := List.suffix_cons '\x22' tail
        have read := (leaves_string plane tail).of_suffix behind
        split
        · rename_i f failed
          exact read.error failed
        · rename_i key rest found
          split
          · rename_i first colon
            have opened := (suffix_skipBlank first).trans
              ((suffix_of_skipBlank colon).trans (read.suffix found))
            have member := (leaves_value plane fuel (skipBlank first)).of_suffix opened
            split
            · rename_i f failed
              exact member.error failed
            · rename_i d last found
              have behind_value := member.suffix found
              dsimp only
              split
              · rename_i rest' closed
                exact (suffix_of_skipBlank closed).trans behind_value
              · rename_i next comma
                exact (leaves_members plane fuel _ (skipBlank next)).of_suffix
                  ((suffix_skipBlank next).trans ((suffix_of_skipBlank comma).trans behind_value))
              · exact leaves_error fun n => Fault.noConfusion
          · exact leaves_error fun n => Fault.noConfusion
      · exact leaves_error fun n => Fault.noConfusion

theorem leaves_elements (plane : Nat) : ∀ (fuel : Nat) (cs : List Char),
    Leaves cs (elements plane fuel cs)
  | 0, _ => leaves_error fun n => Fault.noConfusion
  | fuel + 1, cs => by
      unfold elements
      have element := leaves_value plane fuel cs
      split
      · rename_i f failed
        exact element.error failed
      · rename_i d rest found
        have behind_value := element.suffix found
        split
        · rename_i rest' closed
          exact (suffix_of_skipBlank closed).trans behind_value
        · rename_i next comma
          have more := (leaves_elements plane fuel (skipBlank next)).of_suffix
            ((suffix_skipBlank next).trans ((suffix_of_skipBlank comma).trans behind_value))
          split
          · rename_i f failed
            exact more.error failed
          · rename_i ds rest' found'
            exact more.suffix found'
        · exact leaves_error fun n => Fault.noConfusion

end

/-- A text at which the reader stops for a long integer has that many digits in a row. -/
theorem longRun_of_read {text : String} {n : Nat} (stopped : read text = .error (.longInteger n)) :
    LongRun n text.toList := by
  unfold read readWith readChars at stopped
  split at stopped
  · cases stopped
  · have reads := (leaves_value Text.usualPlane (2 * text.toList.length + 2) (skipBlank text.toList)).of_suffix
      (suffix_skipBlank text.toList)
    split at stopped
    · rename_i f failed
      cases stopped
      rw [failed] at reads
      exact reads n rfl
    · split at stopped <;> cases stopped

/-! ### Fuel -/

section Fuel

variable {plane : Nat}

/-- What stands behind a character that is met is shorter. -/
theorem length_lt_of_skipBlank {c : Char} {cs rest : List Char} (skipped : skipBlank cs = c :: rest) :
    rest.length < cs.length := by
  have whole := (suffix_skipBlank cs).length_le
  rw [skipped] at whole
  exact whole

/-- A step of fuel more than there are characters changes nothing about a string. -/
theorem readString_succ : ∀ (fuel : Nat) (acc cs : List Char), cs.length < fuel →
    readString plane (fuel + 1) acc cs = readString plane fuel acc cs
  | fuel + 1, acc, [], _ => by
      unfold readString
      rfl
  | fuel + 1, acc, c :: rest, enough => by
      rw [List.length_cons] at enough
      unfold readString
      split
      · rfl
      · split
        · split
          · rfl
          · rename_i escaped
            rw [List.length_cons] at enough
            split
            · rfl
            · rename_i d rest found
              have behind := ((leaves_unicodeEscape plane escaped).suffix found).length_le
              exact readString_succ fuel _ rest (by omega)
          · rename_i rest _
            rw [List.length_cons] at enough
            split
            · rfl
            · exact readString_succ fuel _ rest (by omega)
        · split
          · rfl
          · exact readString_succ fuel _ rest (by omega)

mutual

/-- On the way into a nested value every second step takes a character, so a step of fuel more than twice as many
    changes nothing. -/
theorem value_succ : ∀ (fuel : Nat) (cs : List Char), 2 * cs.length < fuel →
    value plane (fuel + 1) cs = value plane fuel cs
  | fuel + 1, cs, enough => by
      unfold value
      split
      · rfl
      · rename_i tail
        rw [List.length_cons] at enough
        have below := (suffix_skipBlank tail).length_le
        split
        · rfl
        · rw [members_succ fuel [] (skipBlank tail) (by omega)]
      · rename_i tail
        rw [List.length_cons] at enough
        have below := (suffix_skipBlank tail).length_le
        split
        · rfl
        · rw [elements_succ fuel (skipBlank tail) (by omega)]
      · rfl

theorem members_succ : ∀ (fuel : Nat) (acc : List (Data × Data)) (cs : List Char), 2 * cs.length < fuel →
    members plane (fuel + 1) acc cs = members plane fuel acc cs
  | fuel + 1, acc, cs, enough => by
      unfold members
      split
      · rename_i tail
        rw [List.length_cons] at enough
        have key := leaves_string plane tail
        split
        · rfl
        · rename_i name rest found
          have named := (key.suffix found).length_le
          split
          · rename_i first colon
            have opened := length_lt_of_skipBlank colon
            have start := (suffix_skipBlank first).length_le
            rw [value_succ fuel (skipBlank first) (by omega)]
            have member := leaves_value plane fuel (skipBlank first)
            split
            · rfl
            · rename_i d last found
              have behind := (member.suffix found).length_le
              dsimp only
              split
              · rfl
              · rename_i next comma
                have more := length_lt_of_skipBlank comma
                have start := (suffix_skipBlank next).length_le
                exact members_succ fuel _ (skipBlank next) (by omega)
              · rfl
          · rfl
      · rfl

theorem elements_succ : ∀ (fuel : Nat) (cs : List Char), 2 * cs.length + 1 < fuel →
    elements plane (fuel + 1) cs = elements plane fuel cs
  | fuel + 1, cs, enough => by
      unfold elements
      rw [value_succ fuel cs (by omega)]
      have element := leaves_value plane fuel cs
      split
      · rfl
      · rename_i d rest found
        have behind := (element.suffix found).length_le
        split
        · rfl
        · rename_i next comma
          have more := length_lt_of_skipBlank comma
          have start := (suffix_skipBlank next).length_le
          rw [elements_succ fuel (skipBlank next) (by omega)]
        · rfl

end

/-- The fuel for a string lasts: with more of it the same is read, or the same fault is found. -/
theorem string_fuel (cs : List Char) (more : Nat) :
    readString plane (cs.length + 1 + more) [] cs = readString plane (cs.length + 1) [] cs := by
  induction more with
  | zero => rfl
  | succ more ih => rw [← Nat.add_assoc, readString_succ _ _ _ (by omega), ih]

/-- The fuel for a whole text lasts: with more of it the same value is read, or the same fault is found. -/
theorem value_fuel (cs : List Char) (more : Nat) :
    value plane (2 * cs.length + 2 + more) (skipBlank cs) =
      value plane (2 * cs.length + 2) (skipBlank cs) := by
  have part := (suffix_skipBlank cs).length_le
  induction more with
  | zero => rfl
  | succ more ih => rw [← Nat.add_assoc, value_succ _ _ (by omega), ih]

end Fuel

end Unmark.Json
