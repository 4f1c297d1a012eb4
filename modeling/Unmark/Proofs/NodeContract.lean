import Unmark.Tree.Load

/-
Module: Unmark.Proofs.NodeContract
Layer: Proofs
Purpose: What one object has to be like to be read as a node, said without the order of the checks: a
  type that is a non-empty string, payload fields that are null or of their type, and metadata that is
  null or a mapping. The checks of `Unmark.Load` pass on exactly the objects that meet this contract,
  and what they return is read off the entries one key at a time.
Main exports: FieldFits, PayloadFits, MetadataFits, Contract, nodeOf, kindOf_eq_ok_iff,
  finish_eq_ok_iff, finish_eq_error
-/

namespace Unmark.Load

/-! ### The contract -/

/-- A field is missing, null, or of the type that `read` picks. -/
def FieldFits {α : Type} (read : Data → Option α) (es : Entries) (key : String) : Prop :=
  ∀ d, Data.lookup key es = some d → d = .null ∨ ∃ a, read d = some a

/-- Every payload field is missing, null, or of its type. -/
structure PayloadFits (es : Entries) : Prop where
  strings : ∀ key ∈ ["value", "url", "title", "alt", "lang", "identifier"],
    FieldFits Data.string? es key
  integers : ∀ key ∈ ["depth", "start"], FieldFits Data.int? es key
  truths : ∀ key ∈ ["ordered", "checked"], FieldFits Data.bool? es key

/-- The metadata is missing, null or a mapping. It stands under `metadata`, and under `data` only when
    there is no such key. -/
def MetadataFits (es : Entries) : Prop :=
  ∀ d, (Data.lookup "metadata" es).or (Data.lookup "data" es) = some d → d = .null ∨ ∃ fs, d = .map fs

/-- The entries of an object that can be read as a node, whatever its children are. -/
structure Contract (es : Entries) : Prop where
  type : ∃ s, Data.lookup "type" es = some (.str s) ∧ s ≠ ""
  payload : PayloadFits es
  metadata : MetadataFits es

/-- The value of one type that stands under a key. -/
def readAt {α : Type} (read : Data → Option α) (es : Entries) (key : String) : Option α :=
  (Data.lookup key es).bind read

/-- The payload that stands among entries. -/
def payloadAt (es : Entries) : Payload where
  value := readAt Data.string? es "value"
  url := readAt Data.string? es "url"
  title := readAt Data.string? es "title"
  alt := readAt Data.string? es "alt"
  lang := readAt Data.string? es "lang"
  identifier := readAt Data.string? es "identifier"
  depth := readAt Data.int? es "depth"
  start := readAt Data.int? es "start"
  ordered := readAt Data.bool? es "ordered"
  checked := readAt Data.bool? es "checked"

/-- The metadata that stands among entries. -/
def metadataAt (es : Entries) : Entries :=
  match (Data.lookup "metadata" es).or (Data.lookup "data" es) with
  | some (.map fs) => fs
  | _ => []

/-- The node that entries describe, with the given children. -/
def nodeOf (es : Entries) (children : List Node) : Node :=
  .mk (.resolve ((readAt Data.string? es "type").getD "")) (payloadAt es) (metadataAt es) children

/-! ### The checks decide the contract -/

/-- A sequence of two checks passes when both do. -/
theorem bind_eq_ok_iff {ε α β : Type} {x : Except ε α} {f : α → Except ε β} {b : β} :
    (x >>= f) = .ok b ↔ ∃ a, x = .ok a ∧ f a = .ok b := by
  cases x with
  | error e => simp [bind, Except.bind]
  | ok a => simp [bind, Except.bind]

/-- What holds of the errors of two checks holds of the errors of their sequence. -/
theorem error_of_bind {ε α β : Type} {P : ε → Prop} {x : Except ε α} {f : α → Except ε β}
    (first : ∀ e, x = .error e → P e) (second : ∀ a e, f a = .error e → P e) :
    ∀ e, (x >>= f) = .error e → P e := by
  intro e failed
  cases x with
  | error e' => exact first e (by simpa [bind, Except.bind] using failed)
  | ok a => exact second a e failed

theorem field_eq_ok_iff {α : Type} {expected : String} (read : Data → Option α)
    (null : read .null = none) {es : Entries} {key : String} {v : Option α} :
    field expected read es key = .ok v ↔ FieldFits read es key ∧ readAt read es key = v := by
  unfold field FieldFits readAt
  cases found : Data.lookup key es with
  | none => simp
  | some d =>
      cases value : read d with
      | none =>
          cases d <;> simp_all
      | some a =>
          cases d <;> simp_all

theorem kindOf_eq_ok_iff {es : Entries} {k : Kind} :
    kindOf es = .ok k ↔
      (∃ s, Data.lookup "type" es = some (.str s) ∧ s ≠ "") ∧
        Kind.resolve ((readAt Data.string? es "type").getD "") = k := by
  unfold kindOf readAt
  cases found : Data.lookup "type" es with
  | none => simp
  | some d =>
      cases d
      case str s => by_cases empty : s = "" <;> simp [empty, Data.string?]
      all_goals simp

theorem payloadFits_iff {es : Entries} :
    PayloadFits es ↔
      (∀ key ∈ ["value", "url", "title", "alt", "lang", "identifier"],
        FieldFits Data.string? es key) ∧
      (∀ key ∈ ["depth", "start"], FieldFits Data.int? es key) ∧
      ∀ key ∈ ["ordered", "checked"], FieldFits Data.bool? es key :=
  ⟨fun h => ⟨h.strings, h.integers, h.truths⟩, fun ⟨s, i, t⟩ => ⟨s, i, t⟩⟩

theorem payloadOf_eq_ok_iff {es : Entries} {p : Payload} :
    payloadOf es = .ok p ↔ PayloadFits es ∧ payloadAt es = p := by
  simp only [payloadOf, stringField, intField, boolField, bind_eq_ok_iff,
    field_eq_ok_iff Data.string? rfl, field_eq_ok_iff Data.int? rfl,
    field_eq_ok_iff Data.bool? rfl, payloadFits_iff, payloadAt, List.forall_mem_cons,
    List.not_mem_nil, false_imp_iff, implies_true, and_true, and_assoc, exists_and_left,
    exists_eq_left', pure, Except.pure, Except.ok.injEq]

theorem metadataOf_eq_ok_iff {es fs : Entries} :
    metadataOf es = .ok fs ↔ MetadataFits es ∧ metadataAt es = fs := by
  unfold metadataOf MetadataFits metadataAt
  cases found : (Data.lookup "metadata" es).or (Data.lookup "data" es) with
  | none => simp
  | some d => cases d <;> simp

/-- The checks behind the children pass on fitting payload and metadata. -/
theorem finish_eq_ok_iff {kind : Kind} {es : Entries} {children : List Node} {n : Node} :
    finish kind es children = .ok n ↔
      (PayloadFits es ∧ MetadataFits es) ∧
        .mk kind (payloadAt es) (metadataAt es) children = n := by
  simp only [finish, bind_eq_ok_iff, payloadOf_eq_ok_iff, metadataOf_eq_ok_iff, pure, Except.pure,
    Except.ok.injEq, and_assoc, exists_and_left, exists_eq_left']

/-- No check on the entries of an object alone takes it for a cycle. -/
theorem kindOf_defect_ne_cycle {es : Entries} : ∀ d, kindOf es = .error d → d ≠ .cycle := by
  intro d failed
  unfold kindOf at failed
  split at failed
  · split at failed <;> cases failed
    exact Defect.noConfusion
  · cases failed
    exact Defect.noConfusion

theorem field_defect_ne_cycle {α : Type} {expected : String} {read : Data → Option α}
    {es : Entries} {key : String} : ∀ d, field expected read es key = .error d → d ≠ .cycle := by
  intro d failed
  unfold field at failed
  split at failed
  · cases failed
  · cases failed
  · split at failed <;> cases failed
    exact Defect.noConfusion

theorem finish_defect_ne_cycle {kind : Kind} {es : Entries} {children : List Node} :
    ∀ d, finish kind es children = .error d → d ≠ .cycle := by
  refine error_of_bind ?_ fun _ => error_of_bind ?_ fun _ _ done => by cases done
  · repeat' refine error_of_bind field_defect_ne_cycle fun _ => ?_
    intro _ done
    cases done
  · intro d failed
    unfold metadataOf at failed
    split at failed <;> cases failed
    exact Defect.noConfusion

/-- Entries on which the checks behind the children fail do not meet the contract. -/
theorem finish_eq_error {kind : Kind} {es : Entries} {children : List Node} {d : Defect}
    (failed : finish kind es children = .error d) : d ≠ .cycle ∧ ¬ Contract es := by
  refine ⟨finish_defect_ne_cycle d failed, fun fits => ?_⟩
  have passes : finish kind es children = .ok _ :=
    finish_eq_ok_iff.2 ⟨⟨fits.payload, fits.metadata⟩, rfl⟩
  simp [failed] at passes

end Unmark.Load
