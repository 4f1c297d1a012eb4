import Unmark.Json.Write

/-
Module: Unmark.Proofs.JsonScalar
Layer: Proofs
Purpose: Reading back the written forms of integers and strings. The digits of an integer start with no
  zero that could end the number early, and nothing that may follow a value continues them. Every
  character of a string has one written form that is read as that character again, also the control
  characters, which are written by their code.
Main exports: Whole, whole_toDigits, Follows, Writable, number_signedDigits, string_quote
-/

namespace Unmark.Json

/-! ### Integers -/

/-- What may follow a value in a written text: nothing, a comma, a closing bracket or brace, or a line
    break. -/
def Follows (rest : List Char) : Prop := ∀ c ∈ rest.head?, c = ',' ∨ c = ']' ∨ c = '\x7d' ∨ c = '\n'

theorem isDigit_of_mem_toDigits {n : Nat} {c : Char} (mem : c ∈ Nat.toDigits 10 n) :
    isDigit c = true := by
  have digit := Nat.isDigit_of_mem_toDigits (by decide) (by decide) mem
  simpa [isDigit, Char.isDigit, Char.le_def] using digit

/-- The digits of a positive number do not start with a zero. -/
theorem toDigits_ne_zero_cons {n : Nat} (positive : 0 < n) (ds : List Char) :
    Nat.toDigits 10 n ≠ '0' :: ds := by
  induction n using Nat.strongRecOn generalizing ds with
  | ind n ih =>
      by_cases small : n < 10
      · rw [Nat.toDigits_of_lt_base small]
        simp only [ne_eq, List.cons.injEq, Nat.digitChar_eq_zero, not_and]
        omega
      · rw [Nat.toDigits_of_base_le (by decide) (by omega)]
        cases digits : Nat.toDigits 10 (n / 10) with
        | nil => simp at digits
        | cons d front =>
            rintro same
            simp only [List.cons_append, List.cons.injEq] at same
            exact ih (n / 10) (by omega) (by omega) front (by rw [digits, same.1])

theorem natOfDigits_toDigits (n : Nat) : natOfDigits (Nat.toDigits 10 n) = n := by
  have back := Nat.ofDigitChars_ten_toDigits (n := n)
  simpa [natOfDigits, Nat.ofDigitChars_eq_foldl, Nat.mul_comm] using back

/-- A run of characters of a class ends where a character of another class follows. -/
theorem takeWhile_append_of_stops {p : Char → Bool} {run rest : List Char} (all : ∀ c ∈ run, p c = true)
    (stops : ∀ c ∈ rest.head?, p c = false) : (run ++ rest).takeWhile p = run := by
  rw [List.takeWhile_append_of_pos all]
  cases rest with
  | nil => simp
  | cons c rest => simp [stops c rfl]

theorem dropWhile_append_of_stops {p : Char → Bool} {run rest : List Char} (all : ∀ c ∈ run, p c = true)
    (stops : ∀ c ∈ rest.head?, p c = false) : (run ++ rest).dropWhile p = rest := by
  rw [List.dropWhile_append_of_pos all]
  cases rest with
  | nil => rfl
  | cons c rest => simp [stops c rfl]

/-- The digits of a whole number: some digits, of which the first is no zero unless it is the only one. -/
structure Whole (ds : List Char) : Prop where
  digits : ∀ c ∈ ds, isDigit c = true
  some_digit : ds ≠ []
  lead : ds = ['0'] ∨ ds.head? ≠ some '0'

theorem whole_toDigits (n : Nat) : Whole (Nat.toDigits 10 n) where
  digits _ := isDigit_of_mem_toDigits
  some_digit := by simp
  lead := by
    rcases Nat.eq_zero_or_pos n with rfl | positive
    · simp
    · right
      intro zero
      obtain ⟨ds, same⟩ := List.head?_eq_some_iff.1 zero
      exact toDigits_ne_zero_cons positive ds same

/-- The digits of a whole number are read up to what follows them. -/
theorem Whole.wholeDigits_append {ds rest : List Char} (whole : Whole ds)
    (stops : ∀ c ∈ rest.head?, isDigit c = false) : wholeDigits (ds ++ rest) = (ds, rest) := by
  have run := takeWhile_append_of_stops whole.digits stops
  have left := dropWhile_append_of_stops whole.digits stops
  rcases whole.lead with rfl | lead
  · rfl
  · unfold wholeDigits
    split
    case h_1 cs zero =>
      cases ds with
      | nil => exact absurd rfl whole.some_digit
      | cons d ds =>
          rw [List.cons_append, List.cons.injEq] at zero
          simp [zero.1] at lead
    case h_2 => rw [run, left]

section Follows

variable {rest : List Char} (ends : Follows rest)

include ends

theorem Follows.stops_digits : ∀ c ∈ rest.head?, isDigit c = false := by
  intro c mem
  rcases ends c mem with rfl | rfl | rfl | rfl <;> decide

/-- No fraction follows a whole number. -/
theorem Follows.fractionDigits : fractionDigits rest = ([], rest) := by
  unfold Json.fractionDigits
  split
  case h_1 => simpa using ends '.' rfl
  case h_2 => rfl

/-- No exponent follows a whole number. -/
theorem Follows.exponentPart : exponentPart rest = (none, rest) := by
  cases rest with
  | nil => rfl
  | cons c rest => rcases ends c rfl with rfl | rfl | rfl | rfl <;> rfl

end Follows

/-- Integers that can be written and read: they have no more digits than the limit says. -/
def Writable (n : Int) : Prop := (Nat.toDigits 10 n.natAbs).length ≤ digitLimit

instance (n : Int) : Decidable (Writable n) := inferInstanceAs (Decidable (_ ≤ _))

/-- The sign of an integer and the digits of its magnitude. -/
def signedDigits (n : Int) : List Char :=
  (if n < 0 then ['-'] else []) ++ Nat.toDigits 10 n.natAbs

theorem toList_toString (n : Int) : (toString n).toList = signedDigits n := by
  rw [Int.toString_eq_repr, Int.repr_eq_if, signedDigits]
  by_cases negative : n < 0
  · have magnitude : (-n).toNat = n.natAbs := by omega
    simp [negative, magnitude, Int.not_le.2 negative]
  · have magnitude : n.toNat = n.natAbs := by omega
    simp [negative, magnitude, Int.not_lt.1 negative]

theorem integer_eq_ok {n : Int} (writable : Writable n) : integer n = .ok (signedDigits n) := by
  have length : (toString n.natAbs).length = (Nat.toDigits 10 n.natAbs).length := by
    simp [← String.length_toList]
  simp only [integer, length, toList_toString]
  rw [if_neg (Nat.not_lt.2 writable)]

/-- A minus sign is no digit. -/
theorem toDigits_ne_minus_cons (n : Nat) (ds : List Char) : Nat.toDigits 10 n ≠ '-' :: ds := by
  intro same
  have digit := isDigit_of_mem_toDigits (n := n) (c := '-') (by simp [same])
  exact absurd digit (by decide)

theorem signPart_signedDigits (n : Int) (rest : List Char) :
    signPart (signedDigits n ++ rest) = (decide (n < 0), Nat.toDigits 10 n.natAbs ++ rest) := by
  by_cases negative : n < 0
  · simp [signedDigits, negative, signPart]
  · have unsigned : signedDigits n = Nat.toDigits 10 n.natAbs := by simp [signedDigits, negative]
    rw [unsigned]
    unfold signPart
    split
    case h_1 body sign =>
      cases digits : Nat.toDigits 10 n.natAbs with
      | nil => simp at digits
      | cons d ds =>
          rw [digits, List.cons_append, List.cons.injEq] at sign
          exact absurd (digits.trans (by rw [sign.1])) (toDigits_ne_minus_cons _ ds)
    case h_2 => simp [negative]

/-- The text of an integer is read as that integer, whatever may follow a value. -/
theorem number_signedDigits {n : Int} (writable : Writable n) {rest : List Char} (ends : Follows rest) :
    number (signedDigits n ++ rest) = .ok (.int n, rest) := by
  have value : (if n < 0 then -(n.natAbs : Int) else (n.natAbs : Int)) = n := by
    split <;> omega
  unfold number
  simp only [signPart_signedDigits, (whole_toDigits _).wholeDigits_append ends.stops_digits,
    ends.fractionDigits, ends.exponentPart]
  simp only [List.isEmpty_iff, Nat.toDigits_ne_nil, if_false, Nat.not_lt.2 writable,
    natOfDigits_toDigits, decide_eq_true_eq, value]

/-! ### Strings -/

theorem hexDigit?_hexChar {n : Nat} (h : n < 16) : hexDigit? (hexChar n) = some n := by
  have all : ∀ n < 16, hexDigit? (hexChar n) = some n := by decide
  exact all n h

/-- The code of a control character is read as that character. At least one character has to follow
    the digits, as the closing quote does. -/
theorem unicodeEscape_control (plane : Nat) {c : Char} (control : c.toNat < 0x20) {rest : List Char}
    (more : rest ≠ []) :
    unicodeEscape plane ('0' :: '0' :: hexChar (c.toNat / 16) :: hexChar (c.toNat % 16) :: rest)
      = .ok (c, rest) := by
  have high := hexDigit?_hexChar (n := c.toNat / 16) (by omega)
  have low := hexDigit?_hexChar (n := c.toNat % 16) (by omega)
  have zero : hexDigit? '0' = some 0 := rfl
  have code : c.toNat / 16 * 16 + c.toNat % 16 = c.toNat := by omega
  have quad : hexQuad? ('0' :: '0' :: hexChar (c.toNat / 16) :: hexChar (c.toNat % 16) :: rest)
      = some (c.toNat, rest) := by
    simp [hexQuad?, high, low, zero, code]
  have long := List.length_pos_iff.2 more
  rw [unicodeEscape, quad, if_neg (by simp only [List.length_cons]; omega)]
  dsimp only
  rw [if_neg (by omega), Text.charOf_toNat]

/-- The written form of a character is read as that character. -/
theorem readString_escapeChar (plane fuel : Nat) (acc : List Char) (c : Char) {rest : List Char}
    (more : rest ≠ []) :
    readString plane (fuel + 1) acc (escapeChar c ++ rest) = readString plane fuel (c :: acc) rest := by
  unfold escapeChar
  split
  case isTrue quote => simp [quote, readString, simpleEscape?]
  split
  case isTrue backslash => simp [backslash, readString, simpleEscape?]
  split
  case isTrue newline => simp [newline, readString, simpleEscape?]
  split
  case isTrue carriage => simp [carriage, readString, simpleEscape?]
  split
  case isTrue tab => simp [tab, readString, simpleEscape?]
  split
  case isTrue feed => simp [feed, readString, simpleEscape?]
  split
  case isTrue backspace => simp [backspace, readString, simpleEscape?]
  split
  case isTrue control =>
    simp [readString, unicodeEscape_control plane control more]
  case isFalse quote backslash _ _ _ _ _ plain =>
    simp [readString, quote, backslash, plain]

/-- The written form of a text up to a closing quote is read as that text. -/
theorem readString_flatMap_escapeChar (plane fuel : Nat) (acc cs rest : List Char)
    (enough : cs.length < fuel) :
    readString plane fuel acc (cs.flatMap escapeChar ++ '\x22' :: rest) = .ok (acc.reverse ++ cs, rest) := by
  induction cs generalizing fuel acc with
  | nil =>
      obtain ⟨fuel, rfl⟩ := Nat.exists_eq_add_of_lt enough
      simp [readString]
  | cons c cs ih =>
      cases fuel with
      | zero => omega
      | succ fuel =>
          rw [List.flatMap_cons, List.append_assoc, readString_escapeChar plane fuel acc c (by simp),
            ih fuel (c :: acc) (by simpa using enough)]
          simp

/-- Every character has a written form. -/
theorem length_le_length_flatMap_escapeChar (cs : List Char) :
    cs.length ≤ (cs.flatMap escapeChar).length := by
  induction cs with
  | nil => simp
  | cons c cs ih =>
      have one : 1 ≤ (escapeChar c).length := by
        unfold escapeChar
        repeat' split
        all_goals simp
      simp only [List.flatMap_cons, List.length_append, List.length_cons]
      omega

/-- A string in quotes, up to what follows it. -/
theorem quote_append (s : String) (rest : List Char) :
    quote s ++ rest = '\x22' :: (s.toList.flatMap escapeChar ++ '\x22' :: rest) := by
  simp [quote]

/-- A string in quotes is read as that string. -/
theorem string_quote (plane : Nat) (s : String) (rest : List Char) :
    string plane (s.toList.flatMap escapeChar ++ '\x22' :: rest) = .ok (s, rest) := by
  have long := length_le_length_flatMap_escapeChar s.toList
  rw [string, readString_flatMap_escapeChar]
  · simp
  · simp only [List.length_append, List.length_cons]
    omega

end Unmark.Json
