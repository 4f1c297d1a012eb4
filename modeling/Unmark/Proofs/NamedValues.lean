import Mathlib.Data.List.Basic
import Unmark.Data

/-
Module: Unmark.Proofs.NamedValues
Layer: Proofs
Purpose: Named values as they are looked up. The first value under a key counts; where each key stands once,
  the order does not matter. Two such lists may agree but for one key, and keep doing so under whatever else
  is put in front of them.
Main exports: lookup_eq_some_of_mem, mem_of_lookup_eq_some, Fields.get?_cons, Fields.get?_append,
  Fields.get?_eq_some_iff, Fields.get?_eq_of_perm, Fields.AgreeBut
-/

namespace Unmark

/-! ### Entries under keys -/

/-- Looking up a key among distinct ones finds the entry with that key. -/
theorem lookup_eq_some_of_mem {α β : Type} [BEq α] [LawfulBEq α] {entries : List (α × β)}
    (distinct : (entries.map Prod.fst).Nodup) {e : α × β} (mem : e ∈ entries) :
    entries.lookup e.1 = some e.2 := by
  induction entries with
  | nil => cases mem
  | cons e' entries ih =>
      rw [List.map_cons, List.nodup_cons] at distinct
      rw [List.lookup_cons]
      rcases List.mem_cons.1 mem with rfl | mem
      · rw [beq_self_eq_true]
      · have other : (e.1 == e'.1) = false := by
          rw [beq_eq_false_iff_ne]
          intro same
          exact distinct.1 (same ▸ List.mem_map_of_mem mem)
        rw [other]
        exact ih distinct.2 mem

theorem mem_of_lookup_eq_some {α β : Type} [BEq α] [LawfulBEq α] {entries : List (α × β)} {key : α} {b : β}
    (found : entries.lookup key = some b) : (key, b) ∈ entries := by
  induction entries with
  | nil => cases found
  | cons e entries ih =>
      rw [List.lookup_cons] at found
      cases same : key == e.1 with
      | true =>
          rw [same] at found
          cases found
          rw [eq_of_beq same]
          exact List.mem_cons_self
      | false =>
          rw [same] at found
          exact List.mem_cons_of_mem e (ih found)

namespace Fields

variable {es es' : Fields} {key : String}

/-! ### Lookups -/

theorem get?_cons (e : String × Data) (es : Fields) (key : String) :
    get? (e :: es) key = if e.1 = key then some e.2 else get? es key := by
  rw [get?, List.find?_cons]
  by_cases here : e.1 = key
  · rw [if_pos here, here, beq_self_eq_true]
    rfl
  · rw [if_neg here, beq_eq_false_iff_ne.2 here]
    rfl

theorem get?_append (front es : Fields) (key : String) :
    get? (front ++ es) key = (front.get? key).or (es.get? key) := by
  rw [get?, List.find?_append, Option.map_or]
  rfl

/-- A key that stands somewhere has a value. -/
theorem exists_get?_of_mem (mem : key ∈ es.map Prod.fst) : ∃ d, es.get? key = some d := by
  induction es with
  | nil => cases mem
  | cons e es ih =>
      rw [get?_cons]
      by_cases here : e.1 = key
      · exact ⟨e.2, if_pos here⟩
      · rw [if_neg here]
        rcases List.mem_cons.1 mem with same | mem
        · exact absurd same.symm here
        · exact ih mem

/-- Where each key stands once, the value under a key is the one that stands there with it. -/
theorem get?_eq_some_iff (distinct : (es.map Prod.fst).Nodup) {d : Data} :
    es.get? key = some d ↔ (key, d) ∈ es := by
  induction es with
  | nil => exact iff_of_false (fun found => by cases found) List.not_mem_nil
  | cons e es ih =>
      rw [List.map_cons, List.nodup_cons] at distinct
      rw [get?_cons, List.mem_cons]
      by_cases here : e.1 = key
      · subst here
        rw [if_pos rfl, Option.some_inj]
        constructor
        · intro same
          exact .inl (Prod.ext rfl same.symm)
        · intro mem
          rcases mem with same | mem
          · exact (congrArg Prod.snd same).symm
          · exact absurd (List.mem_map_of_mem mem) distinct.1
      · rw [if_neg here, ih distinct.2]
        constructor
        · exact .inr
        · intro mem
          rcases mem with same | mem
          · exact absurd (congrArg Prod.fst same).symm here
          · exact mem

/-- Then the order does not matter. -/
theorem get?_eq_of_perm (order : es.Perm es') (distinct : (es'.map Prod.fst).Nodup) (key : String) :
    es.get? key = es'.get? key := by
  have distinct' : (es.map Prod.fst).Nodup := (order.map Prod.fst).nodup_iff.2 distinct
  apply Option.ext
  intro d
  rw [get?_eq_some_iff distinct', get?_eq_some_iff distinct, order.mem_iff]

/-! ### Values that agree but for one -/

/-- Values under the same keys that agree but for those under one key. -/
def AgreeBut (key : String) (es es' : Fields) : Prop :=
  es.map Prod.fst = es'.map Prod.fst ∧ ∀ other, other ≠ key → es.get? other = es'.get? other

namespace AgreeBut

theorem refl (key : String) (es : Fields) : AgreeBut key es es := ⟨rfl, fun _ _ => rfl⟩

theorem append (front : Fields) (agree : AgreeBut key es es') : AgreeBut key (front ++ es) (front ++ es') := by
  constructor
  · rw [List.map_append, List.map_append, agree.1]
  · intro other differs
    rw [get?_append, get?_append, agree.2 other differs]

/-- The value under the key itself does not matter. -/
theorem cons_key (d d' : Data) (agree : AgreeBut key es es') :
    AgreeBut key ((key, d) :: es) ((key, d') :: es') := by
  constructor
  · rw [List.map_cons, List.map_cons, agree.1]
  · intro other differs
    rw [get?_cons, get?_cons, if_neg (Ne.symm differs), if_neg (Ne.symm differs), agree.2 other differs]

end AgreeBut

end Fields

end Unmark
