import Unmark.Proofs.JsonScalar

/-
Module: Unmark.Proofs.JsonText
Layer: Proofs
Purpose: Reading back written JSON text, part by part. Between the parts of a text stands white space that
  depends on the indentation, and the reader skips all of it. So a text that is put together from texts of
  values is read up to the character that ends it, whatever the indentation; the members of an object are
  stored one after the other, in the order in which they were written.
Main exports: Data.storeAll, Written, WrittenItems, WrittenMembers, read_of_written
-/

namespace Unmark

namespace Data

/-- Entries with named values stored one after the other: a name that is there keeps its place and takes
    the new value. -/
def storeAll (fs : Fields) (acc : Entries) : Entries :=
  fs.foldl (fun acc f => insert (.str f.1) f.2 acc) acc

@[simp] theorem storeAll_nil (acc : Entries) : storeAll [] acc = acc := rfl

@[simp] theorem storeAll_cons (s : String) (d : Data) (fs : Fields) (acc : Entries) :
    storeAll ((s, d) :: fs) acc = storeAll fs (insert (.str s) d acc) := rfl

end Data

namespace Json

/-! ### White space -/

theorem isBlank_of_mem_lineBreak {indent : Option Int} {depth : Nat} {c : Char}
    (mem : c ∈ lineBreak indent depth) : isBlank c = true := by
  cases indent with
  | none => simp [lineBreak] at mem
  | some n =>
      rw [lineBreak, List.mem_cons, List.mem_replicate] at mem
      rcases mem with rfl | ⟨_, rfl⟩ <;> rfl

/-- White space is skipped up to a character that is none. -/
theorem skipBlank_append {blanks rest : List Char} (all : ∀ c ∈ blanks, isBlank c = true)
    (stops : ∀ c ∈ rest.head?, isBlank c = false) : skipBlank (blanks ++ rest) = rest :=
  dropWhile_append_of_stops all stops

theorem skipBlank_cons (c : Char) (solid : isBlank c = false) (rest : List Char) :
    skipBlank (c :: rest) = c :: rest := by
  simp [skipBlank, solid]

/-- Between two parts stand a comma and white space. -/
theorem separator_eq (indent : Option Int) (depth : Nat) :
    ∃ blanks, separator indent depth = ',' :: blanks ∧ ∀ c ∈ blanks, isBlank c = true := by
  cases indent with
  | none => exact ⟨[' '], rfl, by simp [isBlank]⟩
  | some n => exact ⟨lineBreak (some n) depth, rfl, fun _ => isBlank_of_mem_lineBreak⟩

theorem follows_lineBreak_append (indent : Option Int) (depth : Nat) {rest : List Char}
    (ends : Follows rest) : Follows (lineBreak indent depth ++ rest) := by
  cases indent with
  | none => exact ends
  | some n =>
      intro c mem
      cases mem
      simp

/-- How a written value starts: neither with white space, nor with a character that closes what stands
    around it, nor with a byte order mark. -/
def Starts (text : List Char) : Prop :=
  ∃ c tail, text = c :: tail ∧ isBlank c = false ∧ c ≠ ']' ∧ c ≠ '\x7d' ∧ c ≠ '\uFEFF'

theorem Starts.append {text : List Char} (starts : Starts text) (rest : List Char) :
    Starts (text ++ rest) := by
  obtain ⟨c, tail, rfl, nature⟩ := starts
  exact ⟨c, tail ++ rest, rfl, nature⟩

/-- White space in front of a value is skipped. -/
theorem Starts.skipBlank {text : List Char} (starts : Starts text) {blanks : List Char}
    (all : ∀ c ∈ blanks, isBlank c = true) : Json.skipBlank (blanks ++ text) = text := by
  obtain ⟨c, tail, rfl, solid, _⟩ := starts
  refine skipBlank_append all fun d mem => ?_
  cases mem
  exact solid

theorem Starts.skipBlank_space {text : List Char} (starts : Starts text) :
    Json.skipBlank (' ' :: text) = text := by
  have one : ∀ c ∈ [' '], isBlank c = true := by simp [isBlank]
  exact starts.skipBlank one

/-! ### Values without parts -/

section Readers

-- The readers are opened in this section only. What follows it uses its lemmas.
attribute [local simp] value elements members

theorem value_null (plane fuel : Nat) (rest : List Char) :
    value plane (fuel + 1) ("null".toList ++ rest) = .ok (.null, rest) := by
  simp [word?, words, Text.after?]

theorem value_bool (plane fuel : Nat) (b : Bool) (rest : List Char) :
    value plane (fuel + 1) ((if b then "true".toList else "false".toList) ++ rest) = .ok (.bool b, rest) := by
  cases b <;> simp [word?, words, Text.after?]

theorem value_quote (plane fuel : Nat) (s : String) (rest : List Char) :
    value plane (fuel + 1) (quote s ++ rest) = .ok (.str s, rest) := by
  rw [quote_append, value, string_quote]

/-- The text of an integer starts with a digit, or with a minus sign and a digit. -/
theorem signedDigits_eq (n : Int) :
    ∃ d ds, isDigit d = true ∧ (signedDigits n = d :: ds ∨ signedDigits n = '-' :: d :: ds) := by
  cases digits : Nat.toDigits 10 n.natAbs with
  | nil => simp at digits
  | cons d ds =>
      refine ⟨d, ds, isDigit_of_mem_toDigits (n := n.natAbs) (by simp [digits]), ?_⟩
      by_cases negative : n < 0
      · right
        simp [signedDigits, negative, digits]
      · left
        simp [signedDigits, negative, digits]

/-- A digit is none of the characters that start something else. -/
theorem not_mem_of_isDigit {d : Char} (digit : isDigit d = true) {cs : List Char}
    (others : cs.any isDigit = false) : d ∉ cs := by
  intro mem
  simp only [List.any_eq_false] at others
  exact others d mem digit

/-- What starts with a digit, or with a minus sign and a digit, is read as a number: it is no word. -/
theorem value_eq_number (plane fuel : Nat) {d : Char} (digit : isDigit d = true) (ds : List Char) :
    value plane (fuel + 1) (d :: ds) = number (d :: ds) ∧
      value plane (fuel + 1) ('-' :: d :: ds) = number ('-' :: d :: ds) := by
  have letter : d ∉ ['\x22', '\x7b', '[', 'n', 't', 'f', 'N', 'I', '-'] := not_mem_of_isDigit digit rfl
  simp only [List.mem_cons, List.not_mem_nil, or_false, not_or] at letter
  constructor <;> simp [word?, words, Text.after?, letter, eq_comm (b := d)]

theorem value_signedDigits (plane fuel : Nat) {n : Int} (writable : Writable n) {rest : List Char}
    (ends : Follows rest) : value plane (fuel + 1) (signedDigits n ++ rest) = .ok (.int n, rest) := by
  have digits := number_signedDigits writable ends
  obtain ⟨d, ds, digit, same | same⟩ := signedDigits_eq n
  · rw [same, List.cons_append] at digits ⊢
    rw [(value_eq_number plane fuel digit _).1, digits]
  · rw [same, List.cons_append, List.cons_append] at digits ⊢
    rw [(value_eq_number plane fuel digit _).2, digits]

/-! ### Values with parts -/

theorem value_empty_list (plane fuel : Nat) (rest : List Char) :
    value plane (fuel + 1) ('[' :: ']' :: rest) = .ok (.list [], rest) := by
  simp [skipBlank, isBlank]

theorem value_empty_map (plane fuel : Nat) (rest : List Char) :
    value plane (fuel + 1) ('\x7b' :: '\x7d' :: rest) = .ok (.map [], rest) := by
  simp [skipBlank, isBlank]

section Parts

variable {plane fuel : Nat} {blanks text first rest : List Char}

/-- An array is read as its elements are. -/
theorem value_list {ds : List Data} (all : ∀ c ∈ blanks, isBlank c = true) (starts : Starts text)
    (read : elements plane fuel text = .ok (ds, rest)) :
    value plane (fuel + 1) ('[' :: (blanks ++ text)) = .ok (.list ds, rest) := by
  have skipped := starts.skipBlank all
  obtain ⟨c, tail, rfl, _, bracket, _⟩ := starts
  simp only [value, skipped]
  split
  case h_1 closed => exact absurd (List.cons.inj closed).1 bracket
  case h_2 => rw [read]

/-- An object is read as its members are. -/
theorem value_map {es : Entries} (all : ∀ c ∈ blanks, isBlank c = true) (starts : Starts text)
    (read : members plane fuel [] text = .ok (es, rest)) :
    value plane (fuel + 1) ('\x7b' :: (blanks ++ text)) = .ok (.map es, rest) := by
  have skipped := starts.skipBlank all
  obtain ⟨c, tail, rfl, _, _, brace, _⟩ := starts
  simp only [value, skipped]
  split
  case h_1 closed => exact absurd (List.cons.inj closed).1 brace
  case h_2 => rw [read]

/-- The last element of an array is the one that a closing bracket follows. -/
theorem elements_last {d : Data} (all : ∀ c ∈ blanks, isBlank c = true)
    (last : value plane fuel first = .ok (d, blanks ++ ']' :: rest)) :
    elements plane (fuel + 1) first = .ok ([d], rest) := by
  have skipped : skipBlank (blanks ++ ']' :: rest) = ']' :: rest :=
    skipBlank_append all (by simp [isBlank])
  simp [last, skipped]

/-- After a comma the elements of an array go on. -/
theorem elements_more {d : Data} {ds : List Data} (all : ∀ c ∈ blanks, isBlank c = true)
    (starts : Starts text) (head : value plane fuel first = .ok (d, ',' :: (blanks ++ text)))
    (tail : elements plane fuel text = .ok (ds, rest)) :
    elements plane (fuel + 1) first = .ok (d :: ds, rest) := by
  have skipped := starts.skipBlank all
  have comma := skipBlank_cons ',' rfl (blanks ++ text)
  simp [head, comma, skipped, tail]

/-- The last member of an object is the one that a closing brace follows. -/
theorem members_last (s : String) (acc : Entries) {d : Data} (opens : Starts first)
    (all : ∀ c ∈ blanks, isBlank c = true)
    (last : value plane fuel first = .ok (d, blanks ++ '\x7d' :: rest)) :
    members plane (fuel + 1) acc (quote s ++ ':' :: ' ' :: first)
      = .ok (Data.insert (.str s) d acc, rest) := by
  have colon := skipBlank_cons ':' rfl (' ' :: first)
  have skipped : skipBlank (blanks ++ '\x7d' :: rest) = '\x7d' :: rest :=
    skipBlank_append all (by simp [isBlank])
  simp [quote_append, string_quote, colon, opens.skipBlank_space, last, skipped]

/-- After a comma the members of an object go on, with the first one stored. -/
theorem members_more (s : String) (acc : Entries) {d : Data} (opens : Starts first)
    (all : ∀ c ∈ blanks, isBlank c = true) (starts : Starts text)
    (head : value plane fuel first = .ok (d, ',' :: (blanks ++ text))) :
    members plane (fuel + 1) acc (quote s ++ ':' :: ' ' :: first)
      = members plane fuel (Data.insert (.str s) d acc) text := by
  have colon := skipBlank_cons ':' rfl (' ' :: first)
  have comma := skipBlank_cons ',' rfl (blanks ++ text)
  have skipped := starts.skipBlank all
  simp [quote_append, string_quote, colon, opens.skipBlank_space, head, comma, skipped]

end Parts

end Readers

/-! ### What written texts are read as -/

/-- A text that is read as a value, up to whatever may follow a value. -/
structure Written (text : List Char) (d : Data) : Prop where
  starts : Starts text
  reads : ∀ plane fuel rest, text.length < fuel → Follows rest → value plane fuel (text ++ rest) = .ok (d, rest)

/-- The inside of an array that is read as a list of values, with the break in front of its bracket. -/
structure WrittenItems (close body : List Char) (ds : List Data) : Prop where
  starts : Starts body
  reads : ∀ plane fuel rest, body.length + 1 < fuel →
    elements plane fuel (body ++ (close ++ ']' :: rest)) = .ok (ds, rest)

/-- The inside of an object that is read as named values, with the break in front of its brace. They are
    stored one after the other, into whatever came before them. -/
structure WrittenMembers (close body : List Char) (fs : Fields) : Prop where
  starts : Starts body
  reads : ∀ plane fuel acc rest, body.length + 1 < fuel →
    members plane fuel acc (body ++ (close ++ '\x7d' :: rest)) = .ok (Data.storeAll fs acc, rest)

/-- A value is written if it can be read with any fuel at all. -/
theorem Written.of_forall {text : List Char} {d : Data} (starts : Starts text)
    (reads : ∀ plane fuel rest, Follows rest → value plane (fuel + 1) (text ++ rest) = .ok (d, rest)) :
    Written text d where
  starts := starts
  reads := by
    intro plane fuel rest enough ends
    cases fuel with
    | zero => omega
    | succ fuel => exact reads plane fuel rest ends

/-- A value may start with a digit. -/
theorem starts_of_isDigit {d : Char} (digit : isDigit d = true) (ds : List Char) : Starts (d :: ds) := by
  have other : d ∉ [' ', '\t', '\n', '\r', ']', '\x7d', '\uFEFF'] := not_mem_of_isDigit digit rfl
  simp only [List.mem_cons, List.not_mem_nil, or_false, not_or] at other
  refine ⟨d, ds, rfl, ?_, ?_⟩ <;> simp [isBlank, other]

/-- A value may start with a minus sign. -/
theorem starts_minus (cs : List Char) : Starts ('-' :: cs) := ⟨'-', cs, rfl, by decide⟩

theorem starts_signedDigits (n : Int) : Starts (signedDigits n) := by
  obtain ⟨d, ds, digit, same | same⟩ := signedDigits_eq n
  · rw [same]
    exact starts_of_isDigit digit ds
  · rw [same]
    exact starts_minus _

/-- The elements of an array between its brackets. -/
theorem WrittenItems.list {indent : Option Int} {depth : Nat} {body : List Char} {ds : List Data}
    (items : WrittenItems (lineBreak indent depth) body ds) :
    Written ('[' :: lineBreak indent (depth + 1) ++ body ++ lineBreak indent depth ++ [']'])
      (.list ds) where
  starts := ⟨'[', _, rfl, by decide⟩
  reads := by
    intro plane fuel rest enough ends
    cases fuel with
    | zero => omega
    | succ fuel =>
        simp only [List.length_append, List.length_cons] at enough
        have read := items.reads plane fuel rest (by omega)
        simpa using value_list (fun _ => isBlank_of_mem_lineBreak) (items.starts.append _) read

/-- The members of an object between its braces. -/
theorem WrittenMembers.map {indent : Option Int} {depth : Nat} {body : List Char} {fs : Fields}
    (members : WrittenMembers (lineBreak indent depth) body fs) :
    Written ('\x7b' :: lineBreak indent (depth + 1) ++ body ++ lineBreak indent depth ++ ['\x7d'])
      (.map (Data.storeAll fs [])) where
  starts := ⟨'\x7b', _, rfl, by decide⟩
  reads := by
    intro plane fuel rest enough ends
    cases fuel with
    | zero => omega
    | succ fuel =>
        simp only [List.length_append, List.length_cons] at enough
        have read := members.reads plane fuel [] rest (by omega)
        simpa using value_map (fun _ => isBlank_of_mem_lineBreak) (members.starts.append _) read

section Steps

variable {indent : Option Int} {depth : Nat} {text : List Char} {d : Data} (written : Written text d)

include written

theorem Written.item : WrittenItems (lineBreak indent depth) text [d] where
  starts := written.starts
  reads := by
    intro plane fuel rest enough
    cases fuel with
    | zero => omega
    | succ fuel =>
        have ends : Follows (lineBreak indent depth ++ ']' :: rest) :=
          follows_lineBreak_append indent depth (by simp [Follows])
        have last := written.reads plane fuel _ (by omega) ends
        exact elements_last (fun _ => isBlank_of_mem_lineBreak) last

theorem Written.item_append {body : List Char} {ds : List Data}
    (items : WrittenItems (lineBreak indent depth) body ds) :
    WrittenItems (lineBreak indent depth) (text ++ separator indent (depth + 1) ++ body) (d :: ds) where
  starts := (written.starts.append _).append _
  reads := by
    intro plane fuel rest enough
    obtain ⟨blanks, comma, all⟩ := separator_eq indent (depth + 1)
    rw [comma] at enough ⊢
    cases fuel with
    | zero => omega
    | succ fuel =>
        simp only [List.length_append, List.length_cons] at enough
        have ends : Follows (',' :: (blanks ++ (body ++ (lineBreak indent depth ++ ']' :: rest)))) := by
          simp [Follows]
        have head := written.reads plane fuel _ (by omega) ends
        have tail := items.reads plane fuel rest (by omega)
        simpa using elements_more all (items.starts.append _) head tail

theorem Written.member (s : String) :
    WrittenMembers (lineBreak indent depth) (quote s ++ [':', ' '] ++ text) [(s, d)] where
  starts := ⟨'\x22', _, rfl, by decide⟩
  reads := by
    intro plane fuel acc rest enough
    cases fuel with
    | zero => omega
    | succ fuel =>
        simp only [List.length_append, List.length_cons] at enough
        have ends : Follows (lineBreak indent depth ++ '\x7d' :: rest) :=
          follows_lineBreak_append indent depth (by simp [Follows])
        have last := written.reads plane fuel _ (by omega) ends
        have read :=
          members_last s acc (written.starts.append _) (fun _ => isBlank_of_mem_lineBreak) last
        simpa using read

theorem Written.member_append (s : String) {body : List Char} {fs : Fields}
    (members : WrittenMembers (lineBreak indent depth) body fs) :
    WrittenMembers (lineBreak indent depth)
      (quote s ++ [':', ' '] ++ text ++ separator indent (depth + 1) ++ body) ((s, d) :: fs) where
  starts := ⟨'\x22', _, rfl, by decide⟩
  reads := by
    intro plane fuel acc rest enough
    obtain ⟨blanks, comma, all⟩ := separator_eq indent (depth + 1)
    rw [comma] at enough ⊢
    cases fuel with
    | zero => omega
    | succ fuel =>
        simp only [List.length_append, List.length_cons] at enough
        have ends :
            Follows (',' :: (blanks ++ (body ++ (lineBreak indent depth ++ '\x7d' :: rest)))) := by
          simp [Follows]
        have head := written.reads plane fuel _ (by omega) ends
        have read := members_more s acc (written.starts.append _) all (members.starts.append _) head
        have tail := members.reads plane fuel (Data.insert (.str s) d acc) rest (by omega)
        rw [tail] at read
        simpa using read

end Steps

/-- A written value that is the whole text is what the text is read as. -/
theorem read_of_written {text : List Char} {d : Data} (written : Written text d) :
    read (String.ofList text) = .ok d := by
  obtain ⟨c, tail, same, solid, _, _, mark⟩ := written.starts
  have whole := written.reads Text.usualPlane (2 * text.length + 2) [] (by omega) (by simp [Follows])
  rw [List.append_nil, same] at whole
  simp only [read, readWith, readChars, String.toList_ofList, same]
  split
  case h_1 begins => exact absurd (List.cons.inj begins).1 mark
  case h_2 =>
    simp only [skipBlank_cons c solid, whole]
    rfl

end Json

end Unmark
