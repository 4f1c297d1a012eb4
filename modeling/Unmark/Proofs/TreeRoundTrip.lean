import Unmark.Proofs.HeapReading
import Unmark.Tree.Dump

/-
Module: Unmark.Proofs.TreeRoundTrip
Layer: Proofs
Purpose: Describing a tree and reading the description. The description of a node meets the contract
  whenever its kind has a name, and every field of the node can be looked up in it again; only the kind
  may come back as another one, when its name is a syntax tree spelling. So a tree comes back as it was
  exactly when all its kinds are readable, and trees that were read are such trees.
Main exports: Kind.Readable, Node.WellNamed, loadChild_dump_iff, wellNamed_of_loadChild,
  Node.normalise, load_dump_eq_ok_iff
-/

namespace Unmark

open Load

/-! ### Kinds that are read as themselves -/

namespace Kind

/-- A kind whose name is read as this kind: a known one, or a foreign one whose name is neither empty
    nor the syntax tree spelling of a known one. -/
def Readable : Kind → Prop
  | tag _ => True
  | foreign s _ => s ≠ "" ∧ ∀ t : Tag, t.mdastName ≠ s

theorem ofMdastName?_eq_none_iff {s : String} :
    Tag.ofMdastName? s = none ↔ ∀ t : Tag, t.mdastName ≠ s := by
  simp [Tag.ofMdastName?, List.find?_eq_none, Tag.mem_all]

theorem name_ne_empty (t : Tag) : t.name ≠ "" := by cases t <;> decide

theorem resolve_name (t : Tag) : resolve t.name = .tag t := by cases t <;> rfl

/-- The readable kinds are those whose name is not empty and resolves to them. -/
theorem readable_iff {k : Kind} : k.Readable ↔ k.name ≠ "" ∧ resolve k.name = k := by
  cases k with
  | tag t => simp [Readable, name, name_ne_empty, resolve_name]
  | foreign s fresh =>
      rw [Readable, ← ofMdastName?_eq_none_iff]
      cases found : Tag.ofMdastName? s with
      | none => simp [name, resolve, found, ofName_eq_foreign fresh]
      | some t => simp [name, resolve, found]

/-- A name that is not empty resolves to a readable kind. -/
theorem readable_resolve {s : String} (named : s ≠ "") : (resolve s).Readable := by
  unfold resolve
  cases found : Tag.ofMdastName? s with
  | some t => trivial
  | none =>
      cases own : Tag.ofName? s with
      | some t => simp [ofName_eq_tag own, Readable]
      | none =>
          rw [ofName_eq_foreign own]
          exact ⟨named, ofMdastName?_eq_none_iff.1 found⟩

end Kind

namespace Node

mutual

/-- Every kind in a tree is readable. -/
def WellNamed : Node → Prop
  | mk k _ _ cs => k.Readable ∧ AllWellNamed cs

/-- Every kind in a list of trees is readable. -/
def AllWellNamed : List Node → Prop
  | [] => True
  | n :: ns => WellNamed n ∧ AllWellNamed ns

end

theorem allWellNamed_iff {ns : List Node} : AllWellNamed ns ↔ ∀ n ∈ ns, n.WellNamed := by
  induction ns with
  | nil => simp [AllWellNamed]
  | cons n ns ih => simp [AllWellNamed, ih]

end Node

/-! ### Looking up what a description holds -/

namespace Data

theorem lookup_cons (key k : String) (v : Data) (es : Entries) :
    lookup key ((.str k, v) :: es) = if k = key then some v else lookup key es := by
  rw [lookup]

theorem lookup_append (key : String) (es fs : Entries) :
    lookup key (es ++ fs) = (lookup key es).or (lookup key fs) := by
  induction es with
  | nil => simp [lookup]
  | cons e es ih =>
      obtain ⟨k, v⟩ := e
      cases k
      case str k => by_cases same : k = key <;> simp [lookup, same, ih]
      all_goals simpa [lookup] using ih

theorem lookup_entry {α : Type} (key k : String) (wrap : α → Data) (v : Option α) :
    lookup key (Payload.entry k wrap v) = if k = key then v.map wrap else none := by
  cases v <;> by_cases same : k = key <;> simp [Payload.entry, lookup, same]

theorem lookup_childrenEntry (key : String) (ds : List Data) :
    lookup key (Node.childrenEntry ds) =
      if "children" = key ∧ ds ≠ [] then some (.list ds) else none := by
  cases ds <;> simp [Node.childrenEntry, lookup]

theorem lookup_metadataEntry (key : String) (es : Entries) :
    lookup key (Node.metadataEntry es) =
      if "metadata" = key ∧ es ≠ [] then some (.map es) else none := by
  cases es <;> simp [Node.metadataEntry, lookup]

end Data

namespace Node

/-- The entries of the description of a node, from the descriptions of its children. -/
def describing (k : Kind) (p : Payload) (m : Entries) (ds : List Data) : Entries :=
  (.str "type", .str k.name) :: p.entries ++ childrenEntry ds ++ metadataEntry m

theorem dump_mk (k : Kind) (p : Payload) (m : Entries) (cs : List Node) :
    (mk k p m cs).dump = .map (describing k p m (dumpAll cs)) := by
  rw [dump, describing]

section Describing

variable (k : Kind) (p : Payload) (m : Entries) (ds : List Data)

/-- Looking up a key in a description tries the parts of the node one after the other. -/
theorem lookup_describing (key : String) :
    Data.lookup key (describing k p m ds) =
      if "type" = key then some (.str k.name)
      else
        ((Data.lookup key p.entries).or
          (if "children" = key ∧ ds ≠ [] then some (.list ds) else none)).or
          (if "metadata" = key ∧ m ≠ [] then some (.map m) else none) := by
  simp only [describing, List.cons_append, Data.lookup_cons, Data.lookup_append,
    Data.lookup_childrenEntry, Data.lookup_metadataEntry]

/-- What a payload has under a key. -/
theorem lookup_entries (key : String) :
    Data.lookup key p.entries =
      (((((((((if "value" = key then p.value.map .str else none).or
        (if "url" = key then p.url.map .str else none)).or
        (if "title" = key then p.title.map .str else none)).or
        (if "alt" = key then p.alt.map .str else none)).or
        (if "lang" = key then p.lang.map .str else none)).or
        (if "identifier" = key then p.identifier.map .str else none)).or
        (if "depth" = key then p.depth.map .int else none)).or
        (if "start" = key then p.start.map .int else none)).or
        (if "ordered" = key then p.ordered.map .bool else none)).or
        (if "checked" = key then p.checked.map .bool else none) := by
  simp only [Payload.entries, Data.lookup_append, Data.lookup_entry]

theorem lookup_type_describing : Data.lookup "type" (describing k p m ds) = some (.str k.name) := by
  simp [lookup_describing]

theorem lookup_children_describing :
    Data.lookup "children" (describing k p m ds) = if ds = [] then none else some (.list ds) := by
  simp [lookup_describing, lookup_entries]

theorem lookup_metadata_describing :
    (Data.lookup "metadata" (describing k p m ds)).or (Data.lookup "data" (describing k p m ds))
      = if m = [] then none else some (.map m) := by
  simp [lookup_describing, lookup_entries]

/-- A present field is read again, an absent one stays absent. -/
theorem map_bind_of_reads {α : Type} (wrap : α → Data) (read : Data → Option α)
    (reads : ∀ a, read (wrap a) = some a) (v : Option α) : (v.map wrap).bind read = v := by
  cases v <;> simp [reads]

theorem payloadAt_describing : payloadAt (describing k p m ds) = p := by
  obtain ⟨value, url, title, alt, lang, identifier, depth, start, ordered, checked⟩ := p
  simp only [payloadAt, readAt, lookup_describing, lookup_entries]
  simp [map_bind_of_reads .str Data.string? fun _ => rfl,
    map_bind_of_reads .int Data.int? fun _ => rfl,
    map_bind_of_reads .bool Data.bool? fun _ => rfl]

theorem payloadFits_describing : PayloadFits (describing k p m ds) := by
  simp [payloadFits_iff, FieldFits, lookup_describing, lookup_entries, Data.string?, Data.int?,
    Data.bool?, or_imp, forall_and]

theorem metadataAt_describing : metadataAt (describing k p m ds) = m := by
  rw [metadataAt, lookup_metadata_describing]
  by_cases empty : m = [] <;> simp [empty]

theorem metadataFits_describing : MetadataFits (describing k p m ds) := by
  rw [MetadataFits, lookup_metadata_describing]
  by_cases empty : m = [] <;> simp [empty]

/-- The description of a node as an object of a heap. -/
def described : Object := ⟨describing k p m ds, childrenOf (describing k p m ds)⟩

theorem children_described :
    (described k p m ds).children = if ds = [] then .none else .list (ds.map .value) := by
  rw [described, childrenOf, lookup_children_describing]
  by_cases empty : ds = [] <;> simp [empty]

theorem items_described : (described k p m ds).items = ds.map .value := by
  rw [Object.items, children_described]
  by_cases empty : ds = [] <;> simp [empty]

/-- A description meets the contract unless the kind has no name. -/
theorem meetsContract_described : (described k p m ds).MeetsContract ↔ k.name ≠ "" := by
  constructor
  · rintro ⟨⟨⟨s, found, named⟩, _, _⟩, _⟩
    rw [described, lookup_type_describing] at found
    cases found
    exact named
  · intro named
    refine ⟨⟨⟨k.name, lookup_type_describing k p m ds, named⟩, payloadFits_describing k p m ds,
      metadataFits_describing k p m ds⟩, fun found other => ?_⟩
    rw [children_described] at other
    split at other <;> cases other

/-- A description describes the node again, under the kind that its name is read as. -/
theorem nodeOf_describing (ns : List Node) :
    nodeOf (describing k p m ds) ns = .mk (.resolve k.name) p m ns := by
  rw [nodeOf, payloadAt_describing, metadataAt_describing, readAt, lookup_type_describing]
  rfl

end Describing

end Node

/-! ### The round trip -/

namespace Heap

open Node

mutual

/-- A description is read as the tree it was made from exactly when the tree is well named. -/
theorem loadChild_dump_iff (heap : Heap) :
    ∀ (n : Node) (active path : List Nat),
      heap.loadChild active path (.value n.dump) = .ok n ↔ n.WellNamed
  | .mk k p m cs, active, path => by
      have here : heap.object? (.value (.map (describing k p m (dumpAll cs))))
          = some (described k p m (dumpAll cs)) := rfl
      have below := loadChildren_dumpAll_iff heap cs active path 0
      rw [dump_mk, loadChild_eq_ok_iff, WellNamed, Kind.readable_iff, ← below]
      constructor
      · rintro ⟨o, ns, found, _, meets, read, same⟩
        obtain rfl := Option.some.inj (here.symm.trans found)
        rw [items_described] at read
        rw [described, nodeOf_describing, Node.mk.injEq] at same
        obtain ⟨kind, _, _, rfl⟩ := same
        exact ⟨⟨(meetsContract_described k p m _).1 meets, kind⟩, read⟩
      · rintro ⟨⟨named, kind⟩, read⟩
        refine ⟨_, cs, here, rfl, (meetsContract_described k p m _).2 named, ?_, ?_⟩
        · rw [items_described]
          exact read
        · rw [described, nodeOf_describing, kind]

/-- The same for a list of trees. -/
theorem loadChildren_dumpAll_iff (heap : Heap) :
    ∀ (ns : List Node) (active path : List Nat) (i : Nat),
      heap.loadChildren active path i ((dumpAll ns).map .value) = .ok ns ↔ AllWellNamed ns
  | [], _, _, _ => by simp [dumpAll, AllWellNamed]
  | n :: ns, active, path, i => by
      have first := loadChild_dump_iff heap n active (path ++ [i])
      have rest := loadChildren_dumpAll_iff heap ns active path (i + 1)
      rw [dumpAll, List.map_cons, loadChildren_cons_eq_ok_iff, AllWellNamed, ← first, ← rest]
      simp

end

/-- A tree that was read is well named. -/
theorem wellNamed_of_loadChild (heap : Heap) (active : List Nat) (c : Child) :
    ∀ path n, heap.loadChild active path c = .ok n → n.WellNamed := by
  induction active, c using heap.load_induction with
  | step active c ih =>
      intro path n read
      obtain ⟨o, ns, here, idle, meets, below, rfl⟩ := heap.loadChild_eq_ok_iff.1 read
      obtain ⟨size, each⟩ := heap.loadChildren_eq_ok_iff.1 below
      obtain ⟨s, found, named⟩ := meets.entries.type
      refine ⟨?_, allWellNamed_iff.2 fun m mem => ?_⟩
      · rw [readAt, found]
        exact Kind.readable_resolve named
      · obtain ⟨i, h, rfl⟩ := List.getElem_of_mem mem
        exact ih o here idle _ (List.getElem_mem (size ▸ h)) _ _ (each i (size ▸ h) h)

end Heap

namespace Node

/-- Reads a description and describes the tree that it gives. -/
def normalise (d : Data) : Except LoadError Data := (load d).map dump

/-- A tree comes back from its description exactly when all its kinds are readable. Every tree that was
    read, from a value or from a heap, is such a tree; so describing what was read is a normal form:
    reading it and describing it again changes nothing. -/
theorem load_dump_eq_ok_iff :
    (∀ t : Node, load t.dump = .ok t ↔ t.WellNamed) ∧
    (∀ (d : Data) (t : Node), load d = .ok t → t.WellNamed) ∧
    (∀ (heap : Heap) (root : Nat) (t : Node), heap.load root = .ok t → t.WellNamed) ∧
    ∀ d d' : Data, normalise d = .ok d' → normalise d' = .ok d' := by
  have back : ∀ t : Node, load t.dump = .ok t ↔ t.WellNamed :=
    fun t => Heap.loadChild_dump_iff [] t [] []
  have read : ∀ (d : Data) (t : Node), load d = .ok t → t.WellNamed :=
    fun d => Heap.wellNamed_of_loadChild [] [] (.value d) []
  refine ⟨back, read, fun heap root => Heap.wellNamed_of_loadChild heap [] (.object root) [], ?_⟩
  intro d d' normal
  cases loaded : load d with
  | error e => simp [normalise, loaded, Except.map] at normal
  | ok t =>
      simp only [normalise, loaded, Except.map, Except.ok.injEq] at normal
      subst normal
      rw [normalise, (back t).2 (read d t loaded)]
      rfl

end Node

end Unmark
