import Unmark.Proofs.BareTree
import Unmark.Proofs.EveryNode
import Unmark.Proofs.JsonTree

/-
Module: Unmark.Proofs.TreeEcho
Layer: Proofs
Purpose: Trees with any metadata through JSON text. A tree can be written exactly when each of its nodes can:
  when its integers are not too long and its metadata is expressible. What comes back is an echo of its
  description, and an echo of the description of a tree is the description of a tree that differs from it in
  metadata at most.
Main exports: Node.Describable, exists_toJson_iff, exists_ofJson_of_toJson
-/

namespace Unmark

namespace Data

theorem expressibleEntries_append {es fs : Entries} :
    ExpressibleEntries (es ++ fs) ↔ ExpressibleEntries es ∧ ExpressibleEntries fs := by
  induction es with
  | nil => simp [ExpressibleEntries]
  | cons e es ih => simp [ExpressibleEntries, ih, and_assoc]

theorem insert_ne_nil (k d : Data) (es : Entries) : insert k d es ≠ [] := by
  cases es with
  | nil => simp [insert]
  | cons e es =>
      rw [insert]
      split <;> simp

/-- What is stored is not lost. -/
theorem storeAll_ne_nil (fs : Fields) {acc : Entries} (some_entry : acc ≠ []) : storeAll fs acc ≠ [] := by
  induction fs generalizing acc with
  | nil => exact some_entry
  | cons f fs ih => exact ih (insert_ne_nil _ _ _)

end Data

namespace Payload

theorem expressibleEntries_entry {α : Type} {wrap : α → Data} {v : Option α} (key : String) :
    Data.ExpressibleEntries (entry key wrap v) ↔ ∀ a ∈ v, (wrap a).Expressible := by
  cases v <;> simp [entry, Data.ExpressibleEntries, Data.IsKey]

/-- A payload can be written when its integers can. -/
theorem expressibleEntries_entries {p : Payload} : Data.ExpressibleEntries p.entries ↔ p.Plain := by
  simp [entries, Data.expressibleEntries_append, expressibleEntries_entry, Data.Expressible, Plain]

theorem plain_of_eq_none {p : Payload} (depth : p.depth = none) (start : p.start = none) : p.Plain := by
  simp [Plain, depth, start]

end Payload

namespace Node

/-- A node whose integers can be written and whose metadata JSON has a form for. -/
def Describable (n : Node) : Prop := n.payload.Plain ∧ Data.ExpressibleEntries n.metadata

mutual

/-- A tree can be described in JSON exactly when all of its nodes can. -/
theorem expressible_dump_iff : ∀ n : Node, n.dump.Expressible ↔ n.Every Describable
  | mk k p m cs => by
      have below := allExpressible_dumpAll_iff cs
      have children : Data.ExpressibleEntries (childrenEntry (dumpAll cs)) ↔ EveryIn Describable cs := by
        rw [← below]
        cases dumpAll cs <;>
          simp [childrenEntry, Data.ExpressibleEntries, Data.IsKey, Data.Expressible, Data.AllExpressible]
      have metadata : Data.ExpressibleEntries (metadataEntry m) ↔ Data.ExpressibleEntries m := by
        cases m <;> simp [metadataEntry, Data.ExpressibleEntries, Data.IsKey, Data.Expressible]
      rw [dump_mk, Data.Expressible, Every, Describable]
      simp only [describing, List.cons_append, Data.ExpressibleEntries, Data.expressibleEntries_append,
        Payload.expressibleEntries_entries, children, metadata, Data.IsKey, Data.Expressible, true_and,
        payload_mk, metadata_mk]
      exact and_right_comm

/-- The same for a list of trees. -/
theorem allExpressible_dumpAll_iff : ∀ ns : List Node,
    Data.AllExpressible (dumpAll ns) ↔ EveryIn Describable ns
  | [] => by simp [dumpAll, Data.AllExpressible]
  | n :: ns => by
      have first := expressible_dump_iff n
      have rest := allExpressible_dumpAll_iff ns
      rw [dumpAll, Data.AllExpressible, first, rest, everyIn_cons]

end

/-- The trees that have a JSON text are those whose nodes can all be described, whatever the
    indentation. -/
theorem exists_toJson_iff {indent : Option Int} {t : Node} :
    (∃ json, t.toJson indent = .ok json) ↔ t.Every Describable := by
  simp only [toJson]
  rw [Json.exists_write_iff, expressible_dump_iff]

end Node

namespace Json

/-- Members of an append are members of its two parts. -/
theorem EchoMembers.exists_append : ∀ {es es' : Entries} {fs : Fields}, EchoMembers (es ++ es') fs →
    ∃ gs gs', fs = gs ++ gs' ∧ EchoMembers es gs ∧ EchoMembers es' gs'
  | [], _, fs, members => ⟨[], fs, rfl, .nil, members⟩
  | (k, d) :: es, _, _, .cons named echo members => by
      obtain ⟨gs, gs', rfl, front, back⟩ := members.exists_append
      exact ⟨_ :: gs, gs', rfl, .cons named echo front, back⟩

theorem EchoMembers.map_fst : ∀ {es : Entries} {fs : Fields}, EchoMembers es fs → Data.StringKeyed es →
    (Fields.entries fs).map Prod.fst = es.map Prod.fst
  | _, _, .nil, _ => rfl
  | _, _, .cons named echo members, keyed => by
      obtain ⟨s, rfl⟩ := keyed.head_eq
      cases named
      have rest := members.map_fst keyed.tail
      simpa [Fields.entries] using rest

/-- Where keys are distinct strings, every one of them keeps its place. -/
theorem EchoMembers.storeAll_eq {es : Entries} {fs : Fields} (members : EchoMembers es fs)
    (keyed : Data.StringKeyed es) : Data.storeAll fs [] = Fields.entries fs := by
  obtain ⟨keys, same, distinct⟩ := keyed
  have again : Data.StringKeyed (Fields.entries fs) :=
    ⟨keys, (members.map_fst ⟨keys, same, distinct⟩).trans same, distinct⟩
  exact Data.storeAll_eq_append (by simpa using again)

/-- An object that has members comes back with some. -/
theorem EchoMembers.storeAll_ne_nil {e : Data × Data} {es : Entries} {fs : Fields}
    (members : EchoMembers (e :: es) fs) : Data.storeAll fs [] ≠ [] := by
  rcases members with _ | ⟨named, echo, others⟩
  rw [Data.storeAll_cons]
  exact Data.storeAll_ne_nil _ (Data.insert_ne_nil _ _ _)

end Json

namespace Node

open Json

/-- Children that are there come back as children, as many as there were. -/
theorem exists_childrenEntry_of_echo {ds : List Data} {fs : Fields}
    (members : EchoMembers (childrenEntry ds) fs) :
    ∃ ds', Fields.entries fs = childrenEntry ds' ∧ Echoes ds ds' := by
  cases ds with
  | nil =>
      cases members
      exact ⟨[], rfl, .nil⟩
  | cons d ds =>
      rcases members with _ | ⟨named, echo, rest⟩
      cases named
      cases rest
      rcases echo with _ | _ | _ | _ | _ | echoes
      rcases echoes with _ | ⟨first, others⟩
      exact ⟨_, rfl, .cons first others⟩

theorem metadataEntry_of_ne_nil {es : Entries} (some_entry : es ≠ []) :
    metadataEntry es = [(.str "metadata", .map es)] := by
  cases es with
  | nil => exact absurd rfl some_entry
  | cons e es => rfl

/-- Metadata that is there comes back as some metadata. -/
theorem exists_metadataEntry_of_echo {m : Entries} {fs : Fields}
    (members : EchoMembers (metadataEntry m) fs) : ∃ m', Fields.entries fs = metadataEntry m' := by
  cases m with
  | nil =>
      cases members
      exact ⟨[], rfl⟩
  | cons e m =>
      rcases members with _ | ⟨named, echo, rest⟩
      cases named
      cases rest
      rcases echo with _ | _ | _ | _ | _ | _ | _ | inner
      exact ⟨_, (metadataEntry_of_ne_nil inner.storeAll_ne_nil).symm⟩

mutual

/-- An echo of the description of a tree describes a tree that is the same up to metadata. -/
theorem exists_dump_of_echo : ∀ (n : Node) {d : Data}, n.Every Describable → Echo n.dump d →
    ∃ n' : Node, d = n'.dump ∧ n'.bare = n.bare
  | mk k p m cs, d, every, echo => by
      rw [Every] at every
      rw [dump_mk] at echo
      rcases echo with _ | _ | _ | _ | _ | _ | _ | members
      rw [members.storeAll_eq (stringKeyed_describing k p m (dumpAll cs))]
      obtain ⟨_, metadata, rfl, front, info⟩ := members.exists_append
      obtain ⟨_, children, rfl, front, items⟩ := front.exists_append
      rcases front with _ | ⟨named, echo, payload⟩
      cases named
      cases echo
      have fields := payload.entries_eq (p.keysAmong_entries.stringKeyed (by decide)) every.1.1.plainEntries
      obtain ⟨ds, kids, echoes⟩ := exists_childrenEntry_of_echo items
      obtain ⟨m', notes⟩ := exists_metadataEntry_of_echo info
      obtain ⟨cs', rfl, below⟩ := exists_dumpAll_of_echoes cs every.2 echoes
      refine ⟨mk k p m' cs', ?_, by rw [bare, bare, below]⟩
      rw [dump_mk, describing, ← fields, ← kids, ← notes]
      simp [Fields.entries]

/-- The same for a list of trees. -/
theorem exists_dumpAll_of_echoes : ∀ (ns : List Node) {ds : List Data},
    EveryIn Describable ns → Echoes (dumpAll ns) ds → ∃ ns', ds = dumpAll ns' ∧ bareAll ns' = bareAll ns
  | [], _, _, .nil => ⟨[], rfl, rfl⟩
  | n :: ns, _, ⟨first, rest⟩, .cons echo echoes => by
      obtain ⟨n', rfl, here⟩ := exists_dump_of_echo n first echo
      obtain ⟨ns', rfl, below⟩ := exists_dumpAll_of_echoes ns rest echoes
      exact ⟨n' :: ns', rfl, by rw [bareAll, bareAll, here, below]⟩

end

mutual

/-- Whether the kinds of a tree are readable is a matter of each of its nodes. -/
theorem wellNamed_iff_every : ∀ n : Node, n.WellNamed ↔ n.Every fun n => n.kind.Readable
  | mk k p m cs => by
      have below := allWellNamed_iff_everyIn cs
      rw [WellNamed, Every, below]
      rfl

/-- The same for a list of trees. -/
theorem allWellNamed_iff_everyIn : ∀ ns : List Node,
    AllWellNamed ns ↔ EveryIn (fun n => n.kind.Readable) ns
  | [] => by simp [AllWellNamed]
  | n :: ns => by
      have first := wellNamed_iff_every n
      have rest := allWellNamed_iff_everyIn ns
      rw [AllWellNamed, first, rest, everyIn_cons]

end

mutual

theorem WellNamed.of_bare_eq : ∀ {n n' : Node}, n'.bare = n.bare → n.WellNamed → n'.WellNamed
  | mk k p m cs, mk k' p' m' cs', same, ⟨kind, children⟩ => by
      simp only [bare, Node.mk.injEq] at same
      obtain ⟨rfl, _, _, below⟩ := same
      exact ⟨kind, AllWellNamed.of_bareAll_eq below children⟩

theorem AllWellNamed.of_bareAll_eq :
    ∀ {ns ns' : List Node}, bareAll ns' = bareAll ns → AllWellNamed ns → AllWellNamed ns'
  | [], [], _, _ => trivial
  | [], _ :: _, same, _ | _ :: _, [], same, _ => by cases same
  | n :: ns, n' :: ns', same, ⟨first, rest⟩ => by
      simp only [bareAll, List.cons.injEq] at same
      exact ⟨WellNamed.of_bare_eq same.1 first, AllWellNamed.of_bareAll_eq same.2 rest⟩

end

/-- The JSON text of a tree with readable kinds is read as a tree that is the same up to metadata. -/
theorem exists_ofJson_of_toJson {indent : Option Int} {t : Node} {json : String} (named : t.WellNamed)
    (wrote : t.toJson indent = .ok json) : ∃ t', ofJson json = .ok t' ∧ t'.bare = t.bare := by
  obtain ⟨d, back, echo⟩ := echo_of_write wrote
  obtain ⟨t', rfl, same⟩ := exists_dump_of_echo t (exists_toJson_iff.1 ⟨json, wrote⟩) echo
  have loaded : load t'.dump = .ok t' :=
    (Heap.loadChild_dump_iff [] t' [] []).2 (WellNamed.of_bare_eq same named)
  refine ⟨t', ?_, same⟩
  rw [ofJson, back]
  simp only [ofRead, loaded]

end Node

end Unmark
