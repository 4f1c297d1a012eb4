import Unmark.Failure
import Unmark.Proofs.JsonFaults
import Unmark.Proofs.LoadDefects

/-
Module: Unmark.Proofs.JsonTreeFaults
Layer: Proofs
Purpose: What a caller gets for a text that should be the JSON text of a tree: the tree, or a malformed tree.
  A text that is no JSON is reported with the syntax error behind it, and JSON that describes no tree with
  the path of a value that has the defect. The exception is an integer that has too many digits to be read:
  its error is not translated.
Main exports: Json.read_whole, Node.ofJson_ends, Node.ofJson_long_integer
-/

namespace Unmark

namespace Json

/-- A whole number with more digits than the limit is a fault by itself. -/
theorem read_whole {ds : List Char} (whole : Whole ds) (long : digitLimit < ds.length) :
    read (String.ofList ds) = .error (.longInteger ds.length) := by
  obtain ⟨d, rest, rfl⟩ := List.exists_cons_of_ne_nil whole.some_digit
  have digit : isDigit d = true := whole.digits d List.mem_cons_self
  have others : d ∉ ['\uFEFF', ' ', '\t', '\n', '\r', '-'] := not_mem_of_isDigit digit rfl
  simp only [List.mem_cons, List.not_mem_nil, or_false, not_or] at others
  obtain ⟨mark, space, tab, feed, return_, minus⟩ := others
  have solid : isBlank d = false := by simp [isBlank, space, tab, feed, return_]
  have digits : wholeDigits (d :: rest ++ []) = (d :: rest, []) := whole.wholeDigits_append (by simp)
  rw [List.append_nil] at digits
  have stops : number (d :: rest) = .error (.longInteger (d :: rest).length) := by
    have sign : signPart (d :: rest) = (false, d :: rest) := by
      unfold signPart
      split
      · rename_i same
        exact absurd (List.cons.inj same).1 minus
      · rfl
    unfold number
    rw [sign]
    dsimp only
    rw [digits]
    exact if_pos long
  unfold read readWith readChars
  rw [String.toList_ofList]
  split
  · rename_i same
    exact absurd (List.cons.inj same).1 mark
  · rw [skipBlank_cons d solid, (value_eq_number _ _ digit rest).1, stops]

end Json

namespace Node

/-- A text gives a tree, or it is a malformed tree: without a path and with the syntax error if it is no
    JSON, else with the path of a value that has the defect. Otherwise the text holds an integer with more
    digits than the limit, and the error of the conversion comes through as it is. -/
theorem ofJson_ends (text : String) :
    (∃ t, Node.ofJson text = .ok t) ∨ ∃ e, Node.ofJson text = .error e ∧
      ((∃ f, Json.read text = .error f ∧ (∀ n, f ≠ .longInteger n) ∧
          e.failure = .fault (.malformedTree s!"Invalid JSON tree: {f.message}" none (some .jsonSyntax))) ∨
        (∃ (d : Data) (l : LoadError) (d' : Data), Json.read text = .ok d ∧
          Heap.at? [] (.value d) l.path = some (.value d') ∧ Heap.Has [] (.value d') l.defect ∧
          e.failure = .fault (.malformedTree l.defect.message (some (pathText l.path)) none)) ∨
        ∃ n, Json.read text = .error (.longInteger n) ∧ Json.LongRun n text.toList ∧
          e.failure = .plain .value (Json.Fault.longInteger n).message) := by
  cases read : Json.read text with
  | error f =>
      have stops : Node.ofJson text = .error (.text f) := by rw [ofJson, read, ofRead]
      refine .inr ⟨.text f, stops, ?_⟩
      by_cases long : ∃ n, f = .longInteger n
      · obtain ⟨n, rfl⟩ := long
        exact .inr (.inr ⟨n, rfl, Json.longRun_of_read read, rfl⟩)
      · rw [not_exists] at long
        refine .inl ⟨f, rfl, long, ?_⟩
        unfold JsonTreeError.failure
        split
        · rename_i n same
          cases same
          exact absurd rfl (long n)
        · rename_i same
          cases same
          rfl
        · rename_i same
          cases same
  | ok d =>
      cases loaded : Node.load d with
      | ok t =>
          have done : Node.ofJson text = .ok t := by simp only [ofJson, read, ofRead, loaded]
          exact .inl ⟨t, done⟩
      | error l =>
          have stops : Node.ofJson text = .error (.tree l) := by simp only [ofJson, read, ofRead, loaded]
          obtain ⟨d', there, wrong⟩ := Heap.load_value_error_at loaded
          exact .inr ⟨.tree l, stops, .inr (.inl ⟨d, l, d', rfl, there, wrong, rfl⟩)⟩

/-- A number of ones that are too many is no tree, and the error is not that of a malformed tree. -/
theorem ofJson_ones {n : Nat} (long : Json.digitLimit < n) :
    Node.ofJson (String.ofList (List.replicate n '1')) = .error (.text (.longInteger n)) := by
  have whole : Json.Whole (List.replicate n '1') := by
    refine ⟨?_, ?_, .inr ?_⟩
    · intro c mem
      rw [List.eq_of_mem_replicate mem]
      rfl
    · rw [ne_eq, List.replicate_eq_nil_iff]
      omega
    · rw [List.head?_replicate]
      split <;> simp
  have stops := Json.read_whole whole (by rwa [List.length_replicate])
  rw [List.length_replicate] at stops
  rw [ofJson, stops, ofRead]

/-- So it is with a number of 4301 digits, where a malformed tree might be expected. -/
theorem ofJson_long_integer :
    ∃ e, Node.ofJson (String.ofList (List.replicate 4301 '1')) = .error e ∧
      e.failure = .plain .value (Json.Fault.longInteger 4301).message :=
  ⟨_, ofJson_ones (by decide), rfl⟩

end Node

end Unmark
