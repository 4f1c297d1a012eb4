/-
Module: Unmark.Data
Layer: foundations
Purpose: The dynamic values that a document can carry along without the program looking into them:
  what JSON text denotes, and in addition what front matter can denote (dates, byte strings, sets,
  mappings whose keys are not strings, and collections that hold themselves). A mapping is a list of
  pairs, so its order is kept; a key stands in it at most once when the mapping was built by `Data.insert`.
Main exports: Collection, Data, Stamp, Entries, Data.typeName, Data.get?, Data.insert, Data.truthy, Fields
-/

namespace Unmark

/-- A point in time as front matter writes it. The offset from UTC is in seconds; a stamp without a
    zone has none. -/
structure Stamp where
  year : Nat
  month : Nat
  day : Nat
  hour : Nat
  minute : Nat
  second : Nat
  microsecond : Nat
  offset : Option Int
deriving DecidableEq, Repr, Inhabited

/-- The collections that can hold themselves. -/
inductive Collection where
  | list | map
deriving DecidableEq, Repr, Inhabited

/-- The word by which messages call a collection. -/
def Collection.typeName : Collection → String
  | list => "list"
  | map => "dict"

/-- A dynamic value. -/
inductive Data where
  | null
  | bool (b : Bool)
  | int (n : Int)
  | float (x : Float)
  | str (s : String)
  | list (items : List Data)
  | map (entries : List (Data × Data))
  | tuple (items : List Data)
  | set (items : List Data)
  | bytes (content : List UInt8)
  | date (year month day : Nat)
  | stamp (s : Stamp)
  /-- A collection around the value, which holds itself in this way. Only front matter has such values; objects
      that a tree is read from and that may hold themselves are kept in a heap. -/
  | enclosing (c : Collection)
deriving Inhabited

/-- The entries of a mapping, in their order. -/
abbrev Entries := List (Data × Data)

namespace Data

/-- The word by which messages call the type of a value. -/
def typeName : Data → String
  | null => "NoneType"
  | bool _ => "bool"
  | int _ => "int"
  | float _ => "float"
  | str _ => "str"
  | list _ => "list"
  | map _ => "dict"
  | tuple _ => "tuple"
  | set _ => "set"
  | bytes _ => "bytes"
  | date .. => "date"
  | stamp _ => "datetime"
  | enclosing c => c.typeName

/-- The string that a value is. -/
def string? : Data → Option String
  | str s => some s
  | _ => none

/-- The integer that a value is. -/
def int? : Data → Option Int
  | int n => some n
  | _ => none

/-- The truth value that a value is. -/
def bool? : Data → Option Bool
  | bool b => some b
  | _ => none

/-- Whether a value counts as present where a value may stand for its own absence: nothing, zero,
    `false` and the empty containers do not. -/
def truthy : Data → Bool
  | null => false
  | bool b => b
  | int n => n != 0
  | float x => x != 0.0
  | str s => s != ""
  | list xs => !xs.isEmpty
  | map es => !es.isEmpty
  | tuple xs => !xs.isEmpty
  | set xs => !xs.isEmpty
  | bytes bs => !bs.isEmpty
  | date .. => true
  | stamp _ => true
  | enclosing _ => true

/-- The number that a value is equal to when it is used as a key: truth values count as 0 and 1. -/
def asNumber? : Data → Option (Int ⊕ Float)
  | bool b => some (.inl (if b then 1 else 0))
  | int n => some (.inl n)
  | float x => some (.inr x)
  | _ => none

mutual

/-- Equality of keys. Numbers are compared by value across their types, so that `1`, `1.0` and `true`
    are one key; all else is compared constructor by constructor. -/
def sameKey : Data → Data → Bool
  | null, null => true
  | str a, str b => a == b
  | bytes a, bytes b => a == b
  | date y m d, date y' m' d' => y == y' && m == m' && d == d'
  | stamp a, stamp b => a == b
  | tuple xs, tuple ys => sameKeys xs ys
  | list xs, list ys => sameKeys xs ys
  | a, b =>
    match a.asNumber?, b.asNumber? with
    | some (.inl m), some (.inl n) => m == n
    | some (.inr x), some (.inr y) => x == y
    | some (.inl m), some (.inr y) => Float.ofInt m == y
    | some (.inr x), some (.inl n) => x == Float.ofInt n
    | _, _ => false

/-- Pointwise equality of keys. -/
def sameKeys : List Data → List Data → Bool
  | [], [] => true
  | x :: xs, y :: ys => sameKey x y && sameKeys xs ys
  | _, _ => false

end

/-- The value stored under a string key of an entry list. -/
def lookup (key : String) : Entries → Option Data
  | [] => none
  | (.str k, v) :: rest => if k = key then some v else lookup key rest
  | _ :: rest => lookup key rest

/-- The value stored under a string key of a mapping; other values have no keys. -/
def get? (d : Data) (key : String) : Option Data :=
  match d with
  | map es => lookup key es
  | _ => none

/-- Stores a value under a key. A key that is present keeps its place and its first spelling, and
    takes the new value; a new key goes to the end. -/
def insert (key value : Data) : Entries → Entries
  | [] => [(key, value)]
  | (k, v) :: rest => if sameKey k key then (k, value) :: rest else (k, v) :: insert key value rest

end Data

/-- A string-keyed mapping whose order is kept: the attributes of a token, named options. -/
abbrev Fields := List (String × Data)

namespace Fields

/-- Named values as the entries of a mapping. -/
def entries (fs : Fields) : Entries := fs.map fun (k, v) => (.str k, v)

instance : Coe Fields Entries := ⟨entries⟩

/-- The value under a key. -/
def get? (fs : Fields) (key : String) : Option Data :=
  (fs.find? fun f => f.1 == key).map Prod.snd

end Fields

/-- A mapping with string keys from its pairs, in their order. -/
def Data.ofFields (fields : Fields) : Data := .map fields.entries

/-- The string-keyed entries of a mapping. Keys that are not strings have no place among fields. -/
def Data.fields : Entries → Fields
  | [] => []
  | (.str k, v) :: rest => (k, v) :: Data.fields rest
  | _ :: rest => Data.fields rest

end Unmark
