import Mathlib.Data.List.DropRight
import Unmark.Proofs.JsonText
import Unmark.Proofs.ShortestDigits

/-
Module: Unmark.Proofs.JsonNumber
Layer: Proofs
Purpose: Reading back written doubles. However the digits of a double are laid out, its text is a whole number
  with a fraction, an exponent or both behind it (`Numeral`), because the first digit is never zero; the words
  for infinities and for what is no number are values of their own. So every written double is read as
  some double, up to what follows it.
Main exports: Tail, Numeral, numeral_layOut, exists_written_float
-/

namespace Unmark.Json

/-! ### Numbers that are no integers -/

/-- Some decimal digits. -/
def Digits (ds : List Char) : Prop := ds ≠ [] ∧ ∀ c ∈ ds, isDigit c = true

theorem whole_zero : Whole ['0'] := whole_toDigits 0

theorem digits_zero : Digits ['0'] := ⟨whole_zero.some_digit, whole_zero.digits⟩

/-- What makes a number a double: a fraction, an exponent, or both. -/
inductive Tail : List Char → Prop where
  | fraction {ds : List Char} : Digits ds → Tail ('.' :: ds)
  | exponent {es : List Char} {sign : Char} :
    sign ∈ ['-', '+'] → Digits es → Tail ('e' :: sign :: es)
  | both {ds es : List Char} {sign : Char} :
    Digits ds → sign ∈ ['-', '+'] → Digits es → Tail ('.' :: ds ++ 'e' :: sign :: es)

/-- The text of a number without a sign that is read as a double. -/
inductive Numeral : List Char → Prop where
  | mk {whole tail : List Char} : Whole whole → Tail tail → Numeral (whole ++ tail)

/-- The digits after a point are the fraction, up to what is no digit. -/
theorem Digits.fractionDigits {ds : List Char} (digits : Digits ds) {rest : List Char}
    (stops : ∀ c ∈ rest.head?, isDigit c = false) :
    fractionDigits ('.' :: ds ++ rest) = (ds, rest) := by
  have run := takeWhile_append_of_stops digits.2 stops
  have left := dropWhile_append_of_stops digits.2 stops
  simp [Json.fractionDigits, run, left, digits.1]

/-- The digits after a mark and a sign are the exponent. -/
theorem Digits.exponentPart {es : List Char} (digits : Digits es) {sign : Char}
    (signed : sign ∈ ['-', '+']) :
    ∃ n, ∀ rest, Follows rest → exponentPart ('e' :: sign :: es ++ rest) = (some n, rest) := by
  have run := fun rest (ends : Follows rest) =>
    takeWhile_append_of_stops digits.2 ends.stops_digits
  have left := fun rest (ends : Follows rest) =>
    dropWhile_append_of_stops digits.2 ends.stops_digits
  rcases List.mem_cons.1 signed with rfl | plus
  · exact ⟨-natOfDigits es, fun rest ends => by
      simp [Json.exponentPart, run rest ends, left rest ends, digits.1]⟩
  · obtain rfl := List.mem_singleton.1 plus
    exact ⟨natOfDigits es, fun rest ends => by
      simp [Json.exponentPart, run rest ends, left rest ends, digits.1]⟩

/-- No digit starts a tail. -/
theorem Tail.stops {tail : List Char} (double : Tail tail) (rest : List Char) :
    ∀ c ∈ (tail ++ rest).head?, isDigit c = false := by
  intro c mem
  cases double <;> (cases mem; rfl)

/-- A tail is read as a fraction and an exponent, of which one is there. -/
theorem Tail.reads {tail : List Char} (double : Tail tail) :
    ∃ fraction exponent, (fraction ≠ [] ∨ exponent ≠ none) ∧
      ∀ rest, Follows rest →
        ∃ middle, fractionDigits (tail ++ rest) = (fraction, middle) ∧
          exponentPart middle = (exponent, rest) := by
  cases double with
  | fraction digits =>
      refine ⟨_, none, .inl digits.1, fun rest ends => ⟨rest, ?_, ends.exponentPart⟩⟩
      exact digits.fractionDigits ends.stops_digits
  | exponent signed digits =>
      obtain ⟨n, reads⟩ := digits.exponentPart signed
      exact ⟨[], some n, .inr (by simp), fun rest ends => ⟨_, rfl, reads rest ends⟩⟩
  | both digits signed exponent =>
      obtain ⟨n, reads⟩ := exponent.exponentPart signed
      refine ⟨_, some n, .inl digits.1, fun rest ends => ⟨_, ?_, reads rest ends⟩⟩
      rw [List.append_assoc]
      exact digits.fractionDigits ((Tail.exponent signed exponent).stops rest)

namespace Numeral

variable {text : List Char} (numeral : Numeral text)

include numeral

/-- A numeral starts with a digit. -/
theorem exists_cons : ∃ d ds, text = d :: ds ∧ isDigit d = true := by
  obtain ⟨whole, -⟩ := numeral
  rename_i ds tail
  cases ds with
  | nil => exact absurd rfl whole.some_digit
  | cons d ds => exact ⟨d, ds ++ tail, rfl, whole.digits d List.mem_cons_self⟩

/-- A numeral is read as a double, with a minus sign in front of it or without one. -/
theorem number_eq (negative : Bool) :
    ∃ x, ∀ rest, Follows rest →
      number ((if negative then ['-'] else []) ++ text ++ rest) = .ok (.float x, rest) := by
  have sign : ∀ rest,
      signPart ((if negative then ['-'] else []) ++ text ++ rest) = (negative, text ++ rest) := by
    intro rest
    obtain ⟨d, ds, rfl, digit⟩ := numeral.exists_cons
    cases negative with
    | true => rfl
    | false =>
        have other : d ≠ '-' := by
          rintro rfl
          exact absurd digit (by decide)
        simp [signPart, other]
  obtain ⟨whole, double⟩ := numeral
  rename_i ds tail
  obtain ⟨fraction, exponent, either, reads⟩ := double.reads
  let x := Binary.ofDecimal (natOfDigits (ds ++ fraction)) (exponent.getD 0 - fraction.length)
  refine ⟨if negative then -x else x, fun rest ends => ?_⟩
  obtain ⟨middle, fractional, exponential⟩ := reads rest ends
  have digits : wholeDigits (ds ++ tail ++ rest) = (ds, tail ++ rest) := by
    rw [List.append_assoc]
    exact whole.wholeDigits_append (double.stops rest)
  unfold number
  simp only [sign, digits, fractional, exponential, List.isEmpty_iff, whole.some_digit, if_false]
  split
  case h_1 => exact absurd rfl (either.resolve_right fun some => some rfl)
  case h_2 => rfl

/-- A numeral is a written double, with a minus sign in front of it or without one. -/
theorem exists_written (negative : Bool) :
    ∃ x, Written ((if negative then ['-'] else []) ++ text) (.float x) := by
  obtain ⟨x, reads⟩ := numeral.number_eq negative
  obtain ⟨d, ds, rfl, digit⟩ := numeral.exists_cons
  refine ⟨x, ?_⟩
  cases negative with
  | true =>
      refine .of_forall (starts_minus _) fun plane fuel rest ends => ?_
      exact ((value_eq_number plane fuel digit _).2).trans (reads rest ends)
  | false =>
      refine .of_forall (starts_of_isDigit digit ds) fun plane fuel rest ends => ?_
      exact ((value_eq_number plane fuel digit _).1).trans (reads rest ends)

end Numeral

/-! ### The layout of doubles -/

/-- Without the zeros at its end a positive number still starts with its first digit, which is no zero. -/
theorem exists_trimmed_eq_cons {d : Decimal} (positive : 0 < d.digits) :
    ∃ c ds, DecimalStyle.trimmed d = c :: ds ∧ c ≠ '0' ∧ ∀ e ∈ c :: ds, isDigit e = true := by
  have trimmed : DecimalStyle.trimmed d = (Nat.toDigits 10 d.digits).rdropWhile (· = '0') := by
    simp [DecimalStyle.trimmed, List.rdropWhile]
  obtain ⟨zeros, front⟩ := List.rdropWhile_prefix (fun c => decide (c = '0')) (Nat.toDigits 10 d.digits)
  rw [← trimmed] at front
  have all : ∀ e ∈ DecimalStyle.trimmed d, isDigit e = true := by
    intro e mem
    exact isDigit_of_mem_toDigits (front ▸ List.mem_append_left zeros mem)
  cases whole : DecimalStyle.trimmed d with
  | nil =>
      rw [trimmed, List.rdropWhile_eq_nil_iff] at whole
      cases digits : Nat.toDigits 10 d.digits with
      | nil => simp at digits
      | cons c cs =>
          have zero : c = '0' := by simpa using whole c (by simp [digits])
          exact absurd (digits.trans (by rw [zero])) (toDigits_ne_zero_cons positive cs)
  | cons c ds =>
      rw [whole] at front all
      refine ⟨c, ds, rfl, ?_, all⟩
      rintro rfl
      exact toDigits_ne_zero_cons positive _ front.symm

theorem digits_padded (width n : Nat) : Digits (DecimalStyle.padded width n).toList := by
  have text : (DecimalStyle.padded width n).toList
      = List.replicate (width - (toString n).length) '0' ++ Nat.toDigits 10 n := by
    simp [DecimalStyle.padded]
  rw [text]
  refine ⟨by simp, fun c mem => ?_⟩
  rcases List.mem_append.1 mem with zero | digit
  · rw [List.eq_of_mem_replicate zero]
    rfl
  · exact isDigit_of_mem_toDigits digit

/-- A positive double is written as a numeral: with an exponent, as a fraction below one, or with a whole
    part and a fraction. -/
theorem numeral_layOut {d : Decimal} (positive : 0 < d.digits) : Numeral (floatStyle.layOut d).toList := by
  obtain ⟨c, ds, trimmed, lead, all⟩ := exists_trimmed_eq_cons positive
  rw [List.forall_mem_cons] at all
  have whole : ∀ cs, (∀ e ∈ cs, isDigit e = true) → Whole (c :: cs) := by
    intro cs others
    exact ⟨List.forall_mem_cons.2 ⟨all.1, others⟩, by simp, .inr (by simpa using lead)⟩
  have zeros : ∀ n, ∀ e ∈ List.replicate n '0', isDigit e = true := by
    intro n e mem
    rw [List.eq_of_mem_replicate mem]
    rfl
  unfold DecimalStyle.layOut
  simp only [trimmed]
  generalize d.exponent + (toString d.digits).toList.length - 1 = place
  split
  case isTrue exponential =>
    have exponent := digits_padded 2 place.natAbs
    obtain ⟨sign, signed, mark⟩ :
        ∃ sign ∈ ['-', '+'], (if place < 0 then "-" else "+").toList = [sign] := by
      split
      · exact ⟨'-', by decide, rfl⟩
      · exact ⟨'+', by decide, rfl⟩
    cases ds with
    | nil =>
        have numeral := Numeral.mk (whole [] (by simp)) (.exponent signed exponent)
        simpa [floatStyle, plainStyle, mark] using numeral
    | cons e es =>
        have fraction : Digits (e :: es) := ⟨by simp, all.2⟩
        have numeral := Numeral.mk (whole [] (by simp)) (.both fraction signed exponent)
        simpa [floatStyle, plainStyle, mark] using numeral
  split
  case isTrue small =>
    have fraction : Digits (List.replicate (-place - 1).toNat '0' ++ c :: ds) :=
      ⟨by simp, List.forall_mem_append.2 ⟨zeros _, List.forall_mem_cons.2 all⟩⟩
    simpa using Numeral.mk whole_zero (.fraction fraction)
  case isFalse positional =>
    have front := whole (ds.take place.toNat ++ List.replicate (place.toNat - ds.length) '0')
      (List.forall_mem_append.2 ⟨fun e mem => all.2 e (List.mem_of_mem_take mem), zeros _⟩)
    cases behind : ds.drop place.toNat with
    | nil => simpa [floatStyle, plainStyle, behind] using Numeral.mk front (.fraction digits_zero)
    | cons e es =>
        have fraction : Digits (e :: es) :=
          ⟨by simp, fun x mem => all.2 x (List.mem_of_mem_drop (behind ▸ mem))⟩
        simpa [floatStyle, plainStyle, behind] using Numeral.mk front (.fraction fraction)

/-- The words for doubles that have no digits are values. -/
theorem written_nan : Written "NaN".toList (.float (0.0 / 0.0)) := by
  refine .of_forall ⟨'N', _, rfl, by decide⟩ fun fuel rest _ => ?_
  simp [value, word?, words, Text.after?]

theorem written_infinity (negative : Bool) :
    ∃ x, Written ((if negative then ['-'] else []) ++ "Infinity".toList) (.float x) := by
  cases negative with
  | true =>
      refine ⟨-1.0 / 0.0, .of_forall (starts_minus _) fun fuel rest _ => ?_⟩
      simp [value, word?, words, Text.after?]
  | false =>
      refine ⟨1.0 / 0.0, .of_forall ⟨'I', _, rfl, by decide⟩ fun fuel rest _ => ?_⟩
      simp [value, word?, words, Text.after?]

/-- Every double is written as the text of some double. -/
theorem exists_written_float (x : Float) : ∃ y, Written (floatStyle.write x).toList (.float y) := by
  unfold DecimalStyle.write
  cases finite : Binary.ofFloat? x with
  | none =>
      simp only
      split
      case isTrue nan => exact ⟨_, written_nan⟩
      split
      case isTrue negative => exact written_infinity true
      case isFalse positive => exact written_infinity false
  | some found =>
      obtain ⟨negative, b⟩ := found
      have sign : (if negative then "-" else "").toList = if negative then ['-'] else [] := by
        cases negative <;> rfl
      simp only
      split
      case isTrue zero =>
        have digits : Numeral "0.0".toList := .mk whole_zero (.fraction digits_zero : Tail ['.', '0'])
        obtain ⟨y, written⟩ := digits.exists_written negative
        exact ⟨y, by simpa [floatStyle, plainStyle, sign] using written⟩
      case isFalse other =>
        have range := Binary.leastExponent_le_of_ofFloat? finite
        have positive := Decimal.digits_shortest_pos (Nat.pos_of_ne_zero other) range
        obtain ⟨y, written⟩ := (numeral_layOut positive).exists_written negative
        exact ⟨y, by simpa [sign] using written⟩

end Unmark.Json
