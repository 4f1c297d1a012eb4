import Unmark.Proofs.JsonNumber
import Unmark.Proofs.NodeContract

/-
Module: Unmark.Proofs.JsonEcho
Layer: Proofs
Purpose: What values become when they are written as JSON text and read back. JSON has a form for more values
  than it keeps apart: tuples come back as lists, keys come back as strings, and two keys with one text
  become one (`Echo`). The values that can be written are exactly the expressible ones, whatever the
  indentation, and the text of each is read as an echo of it. The plain values are those that no form is
  lost of: their only echo is the value itself.
Main exports: Data.Expressible, Echo, exists_write_iff, echo_of_write, Data.Plain, read_write
-/

namespace Unmark

namespace Data

/-- A value that can stand as a key in JSON, where it is written as a string. -/
def IsKey : Data → Prop
  | null | bool _ | float _ | str _ => True
  | int n => Json.Writable n
  | list _ | map _ | tuple _ | set _ | bytes _ | date .. | stamp _ | enclosing _ => False

mutual

/-- A value that JSON has a form for, be it the form of another value as well. -/
def Expressible : Data → Prop
  | null | bool _ | float _ | str _ => True
  | int n => Json.Writable n
  | list ds | tuple ds => AllExpressible ds
  | map es => ExpressibleEntries es
  | set _ | bytes _ | date .. | stamp _ | enclosing _ => False

/-- Every value in a list is expressible. -/
def AllExpressible : List Data → Prop
  | [] => True
  | d :: ds => Expressible d ∧ AllExpressible ds

/-- Every key among entries can be a key in JSON, and every value under a key is expressible. -/
def ExpressibleEntries : List (Data × Data) → Prop
  | [] => True
  | (k, d) :: es => IsKey k ∧ Expressible d ∧ ExpressibleEntries es

end

end Data

namespace Json

open Load (bind_eq_ok_iff)

mutual

/-- What may come back for a value after it was written. The text of a double is that of some double; an
    object comes back with its members stored one after the other under the texts of their keys. -/
inductive Echo : Data → Data → Prop where
  | null : Echo .null .null
  | bool (b : Bool) : Echo (.bool b) (.bool b)
  | int (n : Int) : Echo (.int n) (.int n)
  | float (x y : Float) : Echo (.float x) (.float y)
  | str (s : String) : Echo (.str s) (.str s)
  | list {ds ds' : List Data} : Echoes ds ds' → Echo (.list ds) (.list ds')
  | tuple {ds ds' : List Data} : Echoes ds ds' → Echo (.tuple ds) (.list ds')
  | map {es : List (Data × Data)} {fs : List (String × Data)} :
    EchoMembers es fs → Echo (.map es) (.map (Data.storeAll fs []))

/-- The same for a list of values. -/
inductive Echoes : List Data → List Data → Prop where
  | nil : Echoes [] []
  | cons {d d' : Data} {ds ds' : List Data} : Echo d d' → Echoes ds ds' → Echoes (d :: ds) (d' :: ds')

/-- The members that entries are written as, each with an echo of its value. -/
inductive EchoMembers : List (Data × Data) → List (String × Data) → Prop where
  | nil : EchoMembers [] []
  | cons {k d d' : Data} {s : String} {es : List (Data × Data)} {fs : List (String × Data)} :
    keyText k = .ok s → Echo d d' → EchoMembers es fs → EchoMembers ((k, d) :: es) ((s, d') :: fs)

end

/-! ### The values that can be written -/

theorem exists_integer_iff {n : Int} : (∃ text, integer n = .ok text) ↔ Writable n := by
  have length : (toString n.natAbs).length = (Nat.toDigits 10 n.natAbs).length := by
    simp [← String.length_toList]
  constructor
  · rintro ⟨text, wrote⟩
    unfold integer at wrote
    simp only [length] at wrote
    split at wrote
    case isTrue long => cases wrote
    case isFalse short => exact Nat.not_lt.1 short
  · intro writable
    exact ⟨_, integer_eq_ok writable⟩

theorem exists_keyText_iff {k : Data} : (∃ s, keyText k = .ok s) ↔ k.IsKey := by
  cases k
  case int n =>
    rw [Data.IsKey, ← exists_integer_iff, keyText]
    cases integer n <;> simp [Except.map]
  all_goals simp [keyText, Data.IsKey]

mutual

/-- What was written is expressible. -/
theorem expressible_of_writeAt {indent : Option Int} :
    ∀ {d : Data} {depth : Nat} {text : List Char}, writeAt indent depth d = .ok text → d.Expressible
  | .null, _, _, _ | .bool _, _, _, _ | .float _, _, _, _ | .str _, _, _, _ => trivial
  | .int n, _, text, wrote => exists_integer_iff.1 ⟨text, by rwa [writeAt] at wrote⟩
  | .list [], _, _, _ | .tuple [], _, _, _ => trivial
  | .list (d :: ds), _, _, wrote => by
      rw [writeAt] at wrote
      obtain ⟨body, items, -⟩ := bind_eq_ok_iff.1 wrote
      exact allExpressible_of_writeItems items
  | .tuple (d :: ds), _, _, wrote => by
      rw [writeAt] at wrote
      obtain ⟨body, items, -⟩ := bind_eq_ok_iff.1 wrote
      exact allExpressible_of_writeItems items
  | .map [], _, _, _ => trivial
  | .map (e :: es), _, _, wrote => by
      rw [writeAt] at wrote
      obtain ⟨body, entries, -⟩ := bind_eq_ok_iff.1 wrote
      exact expressibleEntries_of_writeEntries entries
  | .set _, _, _, wrote | .bytes _, _, _, wrote | .date .., _, _, wrote | .stamp _, _, _, wrote
  | .enclosing _, _, _, wrote => by
      cases wrote

/-- The same for the inside of an array. -/
theorem allExpressible_of_writeItems {indent : Option Int} :
    ∀ {ds : List Data} {depth : Nat} {body : List Char},
      writeItems indent depth ds = .ok body → Data.AllExpressible ds
  | [], _, _, _ => trivial
  | [d], _, _, wrote => ⟨expressible_of_writeAt (by rwa [writeItems] at wrote), trivial⟩
  | d :: e :: ds, _, _, wrote => by
      rw [writeItems] at wrote
      · obtain ⟨first, here, wrote⟩ := bind_eq_ok_iff.1 wrote
        obtain ⟨others, below, -⟩ := bind_eq_ok_iff.1 wrote
        exact ⟨expressible_of_writeAt here, allExpressible_of_writeItems below⟩
      · simp

/-- The same for the inside of an object. -/
theorem expressibleEntries_of_writeEntries {indent : Option Int} :
    ∀ {es : List (Data × Data)} {depth : Nat} {body : List Char},
      writeEntries indent depth es = .ok body → Data.ExpressibleEntries es
  | [], _, _, _ => trivial
  | [(k, d)], _, _, wrote => by
      rw [writeEntries] at wrote
      obtain ⟨key, named, wrote⟩ := bind_eq_ok_iff.1 wrote
      obtain ⟨text, here, -⟩ := bind_eq_ok_iff.1 wrote
      exact ⟨exists_keyText_iff.1 ⟨key, named⟩, expressible_of_writeAt here, trivial⟩
  | (k, d) :: e :: es, _, _, wrote => by
      rw [writeEntries] at wrote
      · obtain ⟨key, named, wrote⟩ := bind_eq_ok_iff.1 wrote
        obtain ⟨text, here, wrote⟩ := bind_eq_ok_iff.1 wrote
        obtain ⟨others, below, -⟩ := bind_eq_ok_iff.1 wrote
        exact ⟨exists_keyText_iff.1 ⟨key, named⟩, expressible_of_writeAt here,
          expressibleEntries_of_writeEntries below⟩
      · simp

end

/-! ### What is read back -/

mutual

/-- Every expressible value is written, whatever the indentation, and its text is that of an echo. -/
theorem exists_writeAt (indent : Option Int) :
    ∀ (d : Data) (depth : Nat), d.Expressible →
      ∃ text d', writeAt indent depth d = .ok text ∧ Written text d' ∧ Echo d d'
  | .null, _, _ =>
      ⟨_, _, rfl, .of_forall ⟨'n', _, rfl, by decide⟩ fun plane fuel rest _ => value_null plane fuel rest, .null⟩
  | .bool b, _, _ => by
      refine ⟨_, _, rfl, .of_forall ?_ fun plane fuel rest _ => value_bool plane fuel b rest, .bool b⟩
      cases b
      · exact ⟨'f', _, rfl, by decide⟩
      · exact ⟨'t', _, rfl, by decide⟩
  | .int n, _, writable =>
      ⟨_, _, integer_eq_ok writable, .of_forall (starts_signedDigits n)
        fun plane fuel _ => value_signedDigits plane fuel writable, .int n⟩
  | .float x, _, _ => by
      obtain ⟨y, written⟩ := exists_written_float x
      exact ⟨_, _, rfl, written, .float x y⟩
  | .str s, _, _ =>
      ⟨_, _, rfl, .of_forall ⟨'\x22', _, rfl, by decide⟩
        fun plane fuel rest _ => value_quote plane fuel s rest, .str s⟩
  | .list [], _, _ =>
      ⟨['[', ']'], _, rfl, .of_forall ⟨'[', _, rfl, by decide⟩
        fun plane fuel rest _ => value_empty_list plane fuel rest, .list .nil⟩
  | .tuple [], _, _ =>
      ⟨['[', ']'], _, rfl, .of_forall ⟨'[', _, rfl, by decide⟩
        fun plane fuel rest _ => value_empty_list plane fuel rest, .tuple .nil⟩
  | .list (d :: ds), depth, expressible => by
      obtain ⟨body, ds', wrote, items, echoes⟩ :=
        exists_writeItems indent (d :: ds) depth (by simp) expressible
      refine ⟨_, _, ?_, items.list, .list echoes⟩
      rw [writeAt, wrote]
      rfl
  | .tuple (d :: ds), depth, expressible => by
      obtain ⟨body, ds', wrote, items, echoes⟩ :=
        exists_writeItems indent (d :: ds) depth (by simp) expressible
      refine ⟨_, _, ?_, items.list, .tuple echoes⟩
      rw [writeAt, wrote]
      rfl
  | .map [], _, _ =>
      ⟨['\x7b', '\x7d'], _, rfl, .of_forall ⟨'\x7b', _, rfl, by decide⟩
        fun plane fuel rest _ => value_empty_map plane fuel rest, .map .nil⟩
  | .map (e :: es), depth, expressible => by
      obtain ⟨body, fs, wrote, members, echoes⟩ :=
        exists_writeEntries indent (e :: es) depth (by simp) expressible
      refine ⟨_, _, ?_, members.map, .map echoes⟩
      rw [writeAt, wrote]
      rfl

/-- The same for the inside of an array. -/
theorem exists_writeItems (indent : Option Int) :
    ∀ (ds : List Data) (depth : Nat), ds ≠ [] → Data.AllExpressible ds →
      ∃ body ds', writeItems indent depth ds = .ok body ∧
        WrittenItems (lineBreak indent depth) body ds' ∧ Echoes ds ds'
  | [], _, some_item, _ => absurd rfl some_item
  | [d], depth, _, ⟨expressible, _⟩ => by
      obtain ⟨text, d', wrote, written, echo⟩ := exists_writeAt indent d (depth + 1) expressible
      exact ⟨text, [d'], by rw [writeItems, wrote], written.item, .cons echo .nil⟩
  | d :: e :: ds, depth, _, ⟨expressible, others⟩ => by
      obtain ⟨text, d', wrote, written, echo⟩ := exists_writeAt indent d (depth + 1) expressible
      obtain ⟨body, ds', below, items, echoes⟩ :=
        exists_writeItems indent (e :: ds) depth (by simp) others
      refine ⟨_, _, ?_, written.item_append items, .cons echo echoes⟩
      rw [writeItems, wrote, below]
      · rfl
      · simp

/-- The same for the inside of an object. -/
theorem exists_writeEntries (indent : Option Int) :
    ∀ (es : List (Data × Data)) (depth : Nat), es ≠ [] → Data.ExpressibleEntries es →
      ∃ body fs, writeEntries indent depth es = .ok body ∧
        WrittenMembers (lineBreak indent depth) body fs ∧ EchoMembers es fs
  | [], _, some_entry, _ => absurd rfl some_entry
  | [(k, d)], depth, _, ⟨key, expressible, _⟩ => by
      obtain ⟨s, named⟩ := exists_keyText_iff.2 key
      obtain ⟨text, d', wrote, written, echo⟩ := exists_writeAt indent d (depth + 1) expressible
      refine ⟨_, _, ?_, written.member s, .cons named echo .nil⟩
      rw [writeEntries, named, wrote]
      rfl
  | (k, d) :: e :: es, depth, _, ⟨key, expressible, others⟩ => by
      obtain ⟨s, named⟩ := exists_keyText_iff.2 key
      obtain ⟨text, d', wrote, written, echo⟩ := exists_writeAt indent d (depth + 1) expressible
      obtain ⟨body, fs, below, members, echoes⟩ :=
        exists_writeEntries indent (e :: es) depth (by simp) others
      refine ⟨_, _, ?_, written.member_append s members, .cons named echo echoes⟩
      rw [writeEntries, named, wrote, below]
      · rfl
      · simp

end

theorem write_eq_ok_iff {indent : Option Int} {d : Data} {text : String} :
    write indent d = .ok text ↔ ∃ cs, writeAt indent 0 d = .ok cs ∧ String.ofList cs = text := by
  rw [write]
  cases writeAt indent 0 d <;> simp [Except.map]

/-- The values that can be written are the expressible ones, whatever the indentation. -/
theorem exists_write_iff {indent : Option Int} {d : Data} :
    (∃ text, write indent d = .ok text) ↔ d.Expressible := by
  constructor
  · rintro ⟨text, wrote⟩
    obtain ⟨cs, wrote, -⟩ := write_eq_ok_iff.1 wrote
    exact expressible_of_writeAt wrote
  · intro expressible
    obtain ⟨cs, -, wrote, -⟩ := exists_writeAt indent d 0 expressible
    exact ⟨String.ofList cs, write_eq_ok_iff.2 ⟨cs, wrote, rfl⟩⟩

/-- The text of a value is read as an echo of the value. -/
theorem echo_of_write {indent : Option Int} {d : Data} {text : String} (wrote : write indent d = .ok text) :
    ∃ d', read text = .ok d' ∧ Echo d d' := by
  obtain ⟨cs, here, rfl⟩ := write_eq_ok_iff.1 wrote
  obtain ⟨cs', d', again, written, echo⟩ := exists_writeAt indent d 0 (expressible_of_writeAt here)
  cases here.symm.trans again
  exact ⟨d', read_of_written written, echo⟩

end Json

/-! ### Values that come back as they were -/

namespace Data

/-- Entries whose keys are strings, each of them once. -/
def StringKeyed (es : Entries) : Prop :=
  ∃ keys : List String, es.map Prod.fst = keys.map .str ∧ keys.Nodup

mutual

/-- A value that JSON can express without loss: built from null, truth values, integers that can be
    written, strings, lists, and mappings with string keys. -/
def Plain : Data → Prop
  | null | bool _ | str _ => True
  | int n => Json.Writable n
  | list ds => AllPlain ds
  | map es => StringKeyed es ∧ PlainEntries es
  | float _ | tuple _ | set _ | bytes _ | date .. | stamp _ | enclosing _ => False

/-- Every value in a list is plain. -/
def AllPlain : List Data → Prop
  | [] => True
  | d :: ds => Plain d ∧ AllPlain ds

/-- Every value under a key is plain. -/
def PlainEntries : List (Data × Data) → Prop
  | [] => True
  | (_, d) :: es => Plain d ∧ PlainEntries es

end

theorem StringKeyed.head_eq {k d : Data} {es : Entries} (keyed : StringKeyed ((k, d) :: es)) :
    ∃ s, k = .str s := by
  obtain ⟨keys, same, _⟩ := keyed
  cases keys with
  | nil => simp at same
  | cons s keys =>
      simp only [List.map_cons, List.cons.injEq] at same
      exact ⟨s, same.1⟩

theorem StringKeyed.tail {e : Data × Data} {es : Entries} (keyed : StringKeyed (e :: es)) :
    StringKeyed es := by
  obtain ⟨keys, same, distinct⟩ := keyed
  cases keys with
  | nil => simp at same
  | cons s keys =>
      simp only [List.map_cons, List.cons.injEq] at same
      exact ⟨keys, same.2, (List.nodup_cons.1 distinct).2⟩

/-- A key that is not there yet goes to the end. -/
theorem insert_eq_append {s : String} {d : Data} {acc es : Entries}
    (keyed : StringKeyed (acc ++ (.str s, d) :: es)) :
    insert (.str s) d acc = acc ++ [(.str s, d)] := by
  induction acc with
  | nil => rfl
  | cons e acc ih =>
      obtain ⟨k, v⟩ := e
      obtain ⟨keys, same, distinct⟩ := keyed
      cases keys with
      | nil => simp at same
      | cons t keys =>
          simp only [List.cons_append, List.map_cons, List.cons.injEq] at same
          obtain ⟨rfl, same⟩ := same
          rw [List.nodup_cons] at distinct
          have other : t ≠ s := by
            rintro rfl
            have among : Data.str t ∈ keys.map .str := by simp [← same]
            exact distinct.1 (by simpa using among)
          have front := ih ⟨keys, same, distinct.2⟩
          simp [insert, sameKey, other, front]

/-- Named values under distinct names are stored in their order, behind what came before. -/
theorem storeAll_eq_append {fs : Fields} {acc : Entries} (keyed : StringKeyed (acc ++ fs.entries)) :
    storeAll fs acc = acc ++ fs.entries := by
  induction fs generalizing acc with
  | nil => simp [Fields.entries]
  | cons f fs ih =>
      obtain ⟨s, d⟩ := f
      have keyed' : StringKeyed (acc ++ (.str s, d) :: Fields.entries fs) := keyed
      rw [storeAll_cons, insert_eq_append keyed', ih (by simpa using keyed')]
      simp [Fields.entries]

mutual

/-- Plain values are expressible. -/
theorem Plain.expressible : ∀ {d : Data}, d.Plain → d.Expressible
  | null, _ | bool _, _ | str _, _ => trivial
  | int _, writable => writable
  | list _, plain => AllPlain.allExpressible plain
  | map _, ⟨keyed, plain⟩ => PlainEntries.expressibleEntries keyed plain

/-- The same for a list of values. -/
theorem AllPlain.allExpressible : ∀ {ds : List Data}, AllPlain ds → AllExpressible ds
  | [], _ => trivial
  | _ :: _, ⟨plain, others⟩ => ⟨plain.expressible, AllPlain.allExpressible others⟩

/-- The same for entries. -/
theorem PlainEntries.expressibleEntries :
    ∀ {es : List (Data × Data)}, StringKeyed es → PlainEntries es → ExpressibleEntries es
  | [], _, _ => trivial
  | (k, d) :: es, keyed, ⟨plain, others⟩ => by
      obtain ⟨s, rfl⟩ := keyed.head_eq
      exact ⟨trivial, plain.expressible, PlainEntries.expressibleEntries keyed.tail others⟩

end

end Data

namespace Json

mutual

/-- The only echo of a plain value is the value itself. -/
theorem Echo.eq_of_plain : ∀ {d d' : Data}, Echo d d' → d.Plain → d' = d
  | _, _, .null, _ | _, _, .bool _, _ | _, _, .int _, _ | _, _, .str _, _ => rfl
  | _, _, .list echoes, plain => by rw [echoes.eq_of_plain plain]
  | _, _, .map members, ⟨keyed, plain⟩ => by
      have same := members.entries_eq keyed plain
      rw [Data.storeAll_eq_append (by rwa [List.nil_append, same]), List.nil_append, same]

/-- The same for a list of values. -/
theorem Echoes.eq_of_plain : ∀ {ds ds' : List Data}, Echoes ds ds' → Data.AllPlain ds → ds' = ds
  | _, _, .nil, _ => rfl
  | _, _, .cons echo echoes, ⟨plain, others⟩ => by
      rw [echo.eq_of_plain plain, echoes.eq_of_plain others]

/-- The same for entries, when their keys are distinct strings. -/
theorem EchoMembers.entries_eq : ∀ {es : List (Data × Data)} {fs : List (String × Data)},
    EchoMembers es fs → Data.StringKeyed es → Data.PlainEntries es → Fields.entries fs = es
  | _, _, .nil, _, _ => rfl
  | _, _, .cons named echo members, keyed, ⟨plain, others⟩ => by
      obtain ⟨s, rfl⟩ := keyed.head_eq
      cases named
      have rest := members.entries_eq keyed.tail others
      simpa [Fields.entries, echo.eq_of_plain plain] using rest

end

/-- A plain value can be written with every indentation, and its text is read as that value. -/
theorem read_write (indent : Option Int) {d : Data} (plain : d.Plain) :
    ∃ text, write indent d = .ok text ∧ read text = .ok d := by
  obtain ⟨text, wrote⟩ : ∃ text, write indent d = .ok text := exists_write_iff.2 plain.expressible
  obtain ⟨d', back, echo⟩ := echo_of_write wrote
  exact ⟨text, wrote, back.trans (congrArg _ (echo.eq_of_plain plain))⟩

end Json

end Unmark
