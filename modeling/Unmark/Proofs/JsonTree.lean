import Unmark.Proofs.JsonEcho
import Unmark.Proofs.TreeRoundTrip

/-
Module: Unmark.Proofs.JsonTree
Layer: Proofs
Purpose: Trees through JSON text. The description of a tree is a plain value when its metadata is and its
  integers can be written: the keys of a description are some of a fixed list of names, in the order of
  that list. So the text of the tree is read as the description, and the description as the tree.
Main exports: Node.Plain, plain_dump, ofJson_toJson
-/

namespace Unmark

namespace Data

theorem plainEntries_append {es fs : Entries} :
    PlainEntries (es ++ fs) ↔ PlainEntries es ∧ PlainEntries fs := by
  induction es with
  | nil => simp [PlainEntries]
  | cons e es ih => simp [PlainEntries, ih, and_assoc]

/-- Entries whose keys are some of the given names, in the order of the names. -/
def KeysAmong (names : List String) (es : Entries) : Prop :=
  ∃ keys : List String, es.map Prod.fst = keys.map .str ∧ keys.Sublist names

namespace KeysAmong

theorem append {names others : List String} {es fs : Entries} (left : KeysAmong names es)
    (right : KeysAmong others fs) : KeysAmong (names ++ others) (es ++ fs) := by
  obtain ⟨keys, same, among⟩ := left
  obtain ⟨more, same', among'⟩ := right
  exact ⟨keys ++ more, by simp [same, same'], among.append among'⟩

/-- Keys among names that differ from each other differ from each other. -/
theorem stringKeyed {names : List String} {es : Entries} (among : KeysAmong names es)
    (distinct : names.Nodup) : StringKeyed es := by
  obtain ⟨keys, same, sublist⟩ := among
  exact ⟨keys, same, distinct.sublist sublist⟩

theorem singleton (key : String) (d : Data) : KeysAmong [key] [(.str key, d)] :=
  ⟨[key], rfl, .refl _⟩

theorem nil (names : List String) : KeysAmong names [] := ⟨[], rfl, names.nil_sublist⟩

theorem entry {α : Type} (key : String) (wrap : α → Data) (v : Option α) :
    KeysAmong [key] (Payload.entry key wrap v) := by
  cases v with
  | none => exact nil _
  | some a => exact singleton key (wrap a)

theorem childrenEntry (ds : List Data) : KeysAmong ["children"] (Node.childrenEntry ds) := by
  cases ds with
  | nil => exact nil _
  | cons d ds => exact singleton _ _

theorem metadataEntry (es : Entries) : KeysAmong ["metadata"] (Node.metadataEntry es) := by
  cases es with
  | nil => exact nil _
  | cons e es => exact singleton _ _

end KeysAmong

end Data

namespace Payload

/-- The fields of a payload are written under their names, in a fixed order. -/
theorem keysAmong_entries (p : Payload) :
    Data.KeysAmong ["value", "url", "title", "alt", "lang", "identifier", "depth", "start", "ordered",
      "checked"] p.entries :=
  (((((((((Data.KeysAmong.entry _ _ _).append (.entry _ _ _)).append (.entry _ _ _)).append
    (.entry _ _ _)).append (.entry _ _ _)).append (.entry _ _ _)).append (.entry _ _ _)).append
    (.entry _ _ _)).append (.entry _ _ _)).append (.entry _ _ _)

/-- A payload whose integers can be written. -/
def Plain (p : Payload) : Prop :=
  (∀ n ∈ p.depth, Json.Writable n) ∧ ∀ n ∈ p.start, Json.Writable n

theorem plainEntries_entry {α : Type} {wrap : α → Data} {v : Option α} (key : String)
    (plain : ∀ a ∈ v, (wrap a).Plain) : Data.PlainEntries (entry key wrap v) := by
  cases v with
  | none => trivial
  | some a => exact ⟨plain a rfl, trivial⟩

theorem Plain.plainEntries {p : Payload} (plain : p.Plain) : Data.PlainEntries p.entries := by
  obtain ⟨depth, start⟩ := plain
  have strings (key : String) (v : Option String) : Data.PlainEntries (entry key .str v) :=
    plainEntries_entry key fun _ _ => trivial
  have truths (key : String) (v : Option Bool) : Data.PlainEntries (entry key .bool v) :=
    plainEntries_entry key fun _ _ => trivial
  simp only [entries, Data.plainEntries_append, strings, truths, true_and, and_true]
  exact ⟨plainEntries_entry _ depth, plainEntries_entry _ start⟩

end Payload

namespace Node

mutual

/-- A tree whose integers can be written and whose metadata JSON can express without loss. -/
def Plain : Node → Prop
  | mk _ p m cs => p.Plain ∧ (Data.map m).Plain ∧ AllPlain cs

/-- Every tree in a list is plain. -/
def AllPlain : List Node → Prop
  | [] => True
  | n :: ns => Plain n ∧ AllPlain ns

end

/-- No key stands twice in a description. -/
theorem stringKeyed_describing (k : Kind) (p : Payload) (m : Entries) (ds : List Data) :
    Data.StringKeyed (describing k p m ds) := by
  have type := Data.KeysAmong.singleton "type" (.str k.name)
  have whole := ((type.append p.keysAmong_entries).append (.childrenEntry ds)).append (.metadataEntry m)
  exact whole.stringKeyed (by decide)

mutual

/-- The description of a plain tree is a plain value. -/
theorem plain_dump : ∀ n : Node, n.Plain → n.dump.Plain
  | mk k p m cs, ⟨payload, metadata, children⟩ => by
      have below := allPlain_dumpAll cs children
      have of_children : Data.PlainEntries (childrenEntry (dumpAll cs)) := by
        cases described : dumpAll cs with
        | nil => trivial
        | cons d ds => exact ⟨described ▸ below, trivial⟩
      have of_metadata : Data.PlainEntries (metadataEntry m) := by
        cases m with
        | nil => trivial
        | cons e es => exact ⟨metadata, trivial⟩
      rw [dump_mk]
      refine ⟨stringKeyed_describing k p m _, ?_⟩
      simp only [describing, List.cons_append, Data.PlainEntries, Data.plainEntries_append]
      exact ⟨trivial, ⟨payload.plainEntries, of_children⟩, of_metadata⟩

/-- The same for a list of trees. -/
theorem allPlain_dumpAll : ∀ ns : List Node, AllPlain ns → Data.AllPlain (dumpAll ns)
  | [], _ => trivial
  | n :: ns, ⟨first, rest⟩ => ⟨plain_dump n first, allPlain_dumpAll ns rest⟩

end

/-- A plain tree with readable kinds has a JSON text with every indentation, and the tree that this text
    describes is the same one, in its kinds, its payloads, its children and all of its metadata. -/
theorem ofJson_toJson (indent : Option Int) {t : Node} (named : t.WellNamed) (plain : t.Plain) :
    ∃ text, t.toJson indent = .ok text ∧ ofJson text = .ok t := by
  obtain ⟨text, wrote, read⟩ := Json.read_write indent (plain_dump t plain)
  have back : load t.dump = .ok t := (Heap.loadChild_dump_iff [] t [] []).2 named
  refine ⟨text, wrote, ?_⟩
  rw [ofJson, read]
  simp only [ofRead, back]

/-- A document with nested metadata and with strings that need escapes: its child has a kind of its own,
    and its text holds a quote, a backslash, a control character and a letter outside ASCII. -/
def escapes : Node :=
  .mk (.tag .root) { start := some (-3) }
    [(.str "tags", .list [.str "a\tb", .null, .list []]),
      (.str "note\n", .map [(.str "z", .int 7), (.str "a", .bool false)])]
    [.mk (.foreign "callout" rfl) { value := some "\"\\\x01é", title := some "", ordered := some false }
      [] []]

/-- One indentation of the tree that needs escapes. -/
theorem ofJson_toJson_escapes :
    escapes.WellNamed ∧ escapes.Plain ∧
      ∃ text, escapes.toJson (some 2) = .ok text ∧ ofJson text = .ok escapes := by
  have seven : Json.Writable 7 := by decide
  have three : Json.Writable (-3) := by decide
  have named : escapes.WellNamed :=
    ⟨trivial, ⟨⟨by decide, fun t => by cases t <;> decide⟩, trivial⟩, trivial⟩
  have metadata : (Data.map escapes.metadata).Plain := by
    refine ⟨⟨["tags", "note\n"], rfl, by decide⟩, ⟨trivial, trivial, trivial, trivial⟩, ?_, trivial⟩
    exact ⟨⟨["z", "a"], rfl, by decide⟩, seven, trivial, trivial⟩
  have plain : escapes.Plain := by
    refine ⟨⟨by simp, by simpa using three⟩, metadata, ⟨⟨?_, ?_⟩, ?_, trivial⟩, trivial⟩
    · simp
    · simp
    · exact ⟨⟨[], rfl, .nil⟩, trivial⟩
  exact ⟨named, plain, ofJson_toJson (some 2) named plain⟩

end Node

end Unmark
