import Mathlib.Data.List.Forall2
import Unmark.Proofs.CheckOrder
import Unmark.Proofs.TreeRoundTrip

/-
Module: Unmark.Proofs.ReadingAlike
Layer: Proofs
Purpose: Two inputs that are read alike. Of the entries of an object reading sees the values under the
  recognised keys, and a null value there is as good as none (`Data.present?`), but for a null `metadata`,
  which keeps `data` from being seen. When two heaps, or two values, have objects that pass the same checks at
  corresponding places (`Heap.Mirrors`), reading them comes to the same tree or to the same error at the same
  path, whatever else the objects hold. Claims about two runs of the loader are shown by naming the
  correspondence.
Main exports: Load.recognised, Data.present?, Load.Agree, Load.agree_of_lookup, Object.Alike, Heap.Mirrors,
  Heap.loadChild_eq_of_mirrors
-/

namespace Unmark

open Load

/-- The keys that reading looks for. -/
def Load.recognised : List String :=
  ["type", "children", "metadata", "data"] ++ payloadTypes.map Prod.fst

/-- The value under a key, unless it is null. -/
def Data.present? (key : String) (es : Entries) : Option Data :=
  match lookup key es with
  | some .null => none
  | found => found

namespace Load

/-! ### What the checks see -/

variable {es es' : Entries}

theorem field_eq {α : Type} (expected : String) (read : Data → Option α) (es : Entries) (key : String) :
    field expected read es key =
      match Data.present? key es with
      | none => .ok none
      | some d =>
        match read d with
        | some a => .ok (some a)
        | none => .error (.wrongField key expected d.typeName) := by
  unfold field Data.present?
  cases Data.lookup key es with
  | none => rfl
  | some d => cases d <;> rfl

/-- The payload depends on the values that are present under its keys. -/
theorem payloadOf_congr (same : ∀ key ∈ payloadTypes.map Prod.fst,
    Data.present? key es = Data.present? key es') : payloadOf es = payloadOf es' := by
  have field {α : Type} (expected : String) (read : Data → Option α) {keys : List String}
      (known : keys ⊆ payloadTypes.map Prod.fst) :
      ∀ key ∈ keys, field expected read es key = field expected read es' key := by
    intro key mem
    rw [field_eq, field_eq, same key (known mem)]
  have strings : ∀ key ∈ ["value", "url", "title", "alt", "lang", "identifier"],
      stringField es key = stringField es' key := field "str" Data.string? (by decide)
  have integers : ∀ key ∈ ["depth", "start"], intField es key = intField es' key :=
    field "int" Data.int? (by decide)
  have truths : ∀ key ∈ ["ordered", "checked"], boolField es key = boolField es' key :=
    field "bool" Data.bool? (by decide)
  simp only [List.forall_mem_cons] at strings integers truths
  simp only [payloadOf, strings, integers, truths]

/-- The kind depends on the value that is present as the type. -/
theorem kindOf_eq (es : Entries) :
    kindOf es =
      match Data.present? "type" es with
      | some (.str s) => if s = "" then .error .missingType else .ok (Kind.resolve s)
      | _ => .error .missingType := by
  unfold kindOf Data.present?
  cases Data.lookup "type" es with
  | none => rfl
  | some d => cases d <;> rfl

/-- The children depend on the value that is present under their key. -/
theorem childrenOf_eq (es : Entries) :
    childrenOf es =
      match Data.present? "children" es with
      | none => .none
      | some (.list ds) => .list (ds.map Child.value)
      | some d => .other d.typeName := by
  unfold childrenOf Data.present?
  cases Data.lookup "children" es with
  | none => rfl
  | some d => cases d <;> rfl

/-- The checks on the entries of two objects come to the same, the children left out. -/
structure Agree (es es' : Entries) : Prop where
  kind : kindOf es = kindOf es'
  payload : payloadOf es = payloadOf es'
  metadata : metadataOf es = metadataOf es'

theorem Agree.finish (agree : Agree es es') (kind : Kind) (ns : List Node) :
    finish kind es ns = finish kind es' ns := by
  rw [Load.finish, Load.finish, agree.payload, agree.metadata]

theorem present?_congr {key : String} (same : Data.lookup key es = Data.lookup key es') :
    Data.present? key es = Data.present? key es' := by
  rw [Data.present?, Data.present?, same]

/-- Entries with the same values under the recognised keys agree, and the type may be another that names the
    same kind. -/
theorem agree_of_lookup (kind : kindOf es = kindOf es')
    (same : ∀ key ∈ "metadata" :: "data" :: payloadTypes.map Prod.fst,
      Data.lookup key es = Data.lookup key es') : Agree es es' := by
  simp only [List.forall_mem_cons] at same
  obtain ⟨metadata, data, payload⟩ := same
  refine ⟨kind, payloadOf_congr fun key mem => present?_congr (payload key mem), ?_⟩
  rw [metadataOf, metadataOf, metadata, data]

end Load

/-! ### Corresponding objects -/

/-- Two objects that come to the same when their children do, which correspond one by one. -/
structure Object.Alike (related : Child → Child → Prop) (o o' : Object) : Prop where
  opened : o.opened = o'.opened
  finished : ∀ kind ns, finish kind o.entries ns = finish kind o'.entries ns
  items : List.Forall₂ related o.items o'.items

/-- Children that are both missing, both the same other thing, or lists that correspond one by one. -/
inductive Children.Alike (related : Child → Child → Prop) : Children → Children → Prop where
  | none : Alike related .none .none
  | list {cs cs' : List Child} (items : List.Forall₂ related cs cs') : Alike related (.list cs) (.list cs')
  | other (found : String) : Alike related (.other found) (.other found)

theorem Object.alike_of_agree {related : Child → Child → Prop} {es es' : Entries} {cs cs' : Children}
    (agree : Agree es es') (children : Children.Alike related cs cs') :
    Object.Alike related ⟨es, cs⟩ ⟨es', cs'⟩ := by
  refine ⟨?_, agree.finish, ?_⟩
  · rw [Object.opened, Object.opened, agree.kind]
    cases children <;> rfl
  · cases children with
    | none => exact .nil
    | list items => exact items
    | other found => exact .nil

namespace Heap

/-- Related places of two heaps hold objects that are read alike, with related children: each is an object
    where the other is one, and at the same address. -/
structure Mirrors (heap heap' : Heap) (related : Child → Child → Prop) : Prop where
  typeName : ∀ {c c'}, related c c' → c.typeName = c'.typeName
  isActive : ∀ {c c'}, related c c' → ∀ active, c.isActive active = c'.isActive active
  enter : ∀ {c c'}, related c c' → ∀ active, c.enter active = c'.enter active
  object : ∀ {c c'}, related c c' → Option.Rel (Object.Alike related) (heap.object? c) (heap'.object? c')

variable {heap heap' : Heap} {related : Child → Child → Prop}

/-- Lists of children that are read alike one by one are read alike. -/
theorem loadChildren_congr {active : List Nat} {cs cs' : List Child}
    (same : List.Forall₂ (fun c c' => ∀ path, heap.loadChild active path c = heap'.loadChild active path c')
      cs cs') (path : List Nat) (i : Nat) :
    heap.loadChildren active path i cs = heap'.loadChildren active path i cs' := by
  induction same generalizing i with
  | nil => rw [loadChildren_nil, loadChildren_nil]
  | cons first _ ih => rw [loadChildren_cons, loadChildren_cons, first, ih]

/-- What stands at related places is read alike: the same node or the same error comes out. -/
theorem loadChild_eq_of_mirrors (mirrors : heap.Mirrors heap' related) (active : List Nat) (c : Child) :
    ∀ c' path, related c c' → heap.loadChild active path c = heap'.loadChild active path c' := by
  induction active, c using heap.load_induction with
  | step active c ih =>
      intro c' path here
      rw [loadChild_eq, loadChild_eq, mirrors.typeName here, mirrors.isActive here active]
      have objects := mirrors.object here
      cases found : heap.object? c with
      | none =>
          cases found' : heap'.object? c' with
          | none => rfl
          | some o' => simp [found, found'] at objects
      | some o =>
          cases found' : heap'.object? c' with
          | none => simp [found, found'] at objects
          | some o' =>
              rw [found, found', Option.rel_some_some] at objects
              cases met : c'.isActive active with
              | true => rfl
              | false =>
                  have below : List.Forall₂ (fun d d' => ∀ path,
                      heap.loadChild (c'.enter active) path d = heap'.loadChild (c'.enter active) path d')
                      o.items o'.items := by
                    have items := (List.forall₂_and_left o.items o'.items).2 ⟨fun _ mem => mem, objects.items⟩
                    refine items.imp ?_
                    rintro d d' ⟨mem, there⟩ path
                    rw [← mirrors.enter here]
                    exact ih o found ((mirrors.isActive here active).trans met) d mem d' path there
                  simp only [objects.opened, objects.finished, mirrors.enter here, loadChildren_congr below]

end Heap

end Unmark
