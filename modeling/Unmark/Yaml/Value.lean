import Unmark.Data
import Unmark.Decimal.Read
import Unmark.Text.Integer
import Unmark.Yaml.Node

/-
Module: Unmark.Yaml.Value
Layer: Yaml
Purpose: The value of a YAML document. Scalars are read by their tag, and nodes with a tag that stands for no
  type have no value. A collection is begun before it is filled, and collections are filled in the order in
  which they are begun: level by level. The first fault on this way counts. An alias within the node that it
  stands for makes a value that holds itself.
Main exports: Building, Building.begin, Building.fill, Graph.flatten, Yaml.load
-/

namespace Unmark.Yaml

/-!
## Scalars
-/

/-- Integers with more digits than this are not read. -/
def digitLimit : Nat := 4300

/-- An integer to a base. To the base of ten its digits are limited in number. -/
def readInteger (base : Nat) (cs : List Char) : Except Fault Int :=
  match Text.integerDigits? base cs with
  | none => .error (.integer base (String.ofList cs))
  | some (negative, ds) =>
    if base = 10 ∧ digitLimit < ds.length then .error (.longInteger ds.length)
    else .ok (Text.integerOf base negative ds)

/-- A text without underscores, and the sign at its start; the text is not empty. -/
def signed (cs : List Char) : Except Fault (Bool × List Char) :=
  match cs.filter (· ≠ '_') with
  | [] => .error .emptyNumber
  | '-' :: rest => .ok (true, rest)
  | '+' :: rest => .ok (false, rest)
  | rest => .ok (false, rest)

/-- The integer that a scalar denotes. -/
def integerValue (text : List Char) : Except Fault Int := do
  let (negative, cs) ← signed text
  let n ←
    match cs with
    | ['0'] => pure 0
    | '0' :: 'b' :: rest => readInteger 2 rest
    | '0' :: 'x' :: rest => readInteger 16 rest
    | '0' :: _ => readInteger 8 cs
    | [] => throw .emptyNumber
    | _ =>
      if cs.contains ':' then
        ((← (Text.splitAt ':' cs).mapM (readInteger 10)).foldl (fun n d => n * 60 + d) 0 |> pure)
      else readInteger 10 cs
  return if negative then -n else n

/-- The double that a text denotes. -/
def readFloat (cs : List Char) : Except Fault Float :=
  match Binary.read? cs with
  | some x => .ok x
  | none => .error (.float (String.ofList cs))

/-- The sum of parts to the base of sixty, the last part first. A power of sixty that no double comes near is
    a fault. -/
def sexagesimal (base : Nat) (sum : Float) : List Float → Except Fault Float
  | [] => .ok sum
  | x :: xs =>
    if base < Nat.pow 2 1024 then sexagesimal (base * 60) (sum + x * Float.ofNat base) xs
    else .error .wideFloat

/-- The float that a scalar denotes. -/
def floatValue (text : List Char) : Except Fault Float := do
  let (negative, cs) ← signed (Text.lower text)
  let x ←
    if cs = ".inf".toList then pure (1.0 / 0.0)
    else if cs = ".nan".toList then return 0.0 / 0.0
    else if cs.contains ':' then do
      let parts ← (Text.splitAt ':' cs).mapM readFloat
      sexagesimal 1 0.0 parts.reverse
    else readFloat cs
  return if negative then -x else x

/-- Whether a year is a leap year. -/
def isLeap (year : Nat) : Bool := year % 4 = 0 && (year % 100 ≠ 0 || year % 400 = 0)

/-- The number of days in a month. -/
def daysIn (year month : Nat) : Nat :=
  if month = 2 then (if isLeap year then 29 else 28)
  else if month = 4 ∨ month = 6 ∨ month = 9 ∨ month = 11 then 30
  else 31

def natOf (ds : List Char) : Nat := ds.foldl (fun n d => n * 10 + (d.toNat - 48)) 0

/-- The point in time that a scalar denotes. -/
def timestampValue (text : List Char) : Except Fault Data :=
  match Timestamp.parse? text with
  | none => .error .noTimestamp
  | some t => do
    let year := natOf t.year
    let month := natOf t.month
    let day := natOf t.day
    let zone : Option Int ←
      match t.zone with
      | none => pure none
      | some none => pure (some 0)
      | some (some (sign, hours, minutes)) =>
        let seconds : Int := natOf hours * 3600 + natOf minutes * 60
        let seconds := if sign = '-' then -seconds else seconds
        if seconds.natAbs < 86400 then pure (some seconds) else throw (.offset seconds)
    if year = 0 then throw (.year year)
    if month = 0 ∨ 12 < month then throw .month
    if day = 0 ∨ daysIn year month < day then throw .day
    match t.time with
    | none => return .date year month day
    | some (hour, minute, second, fraction) =>
      let hour := natOf hour
      let minute := natOf minute
      let second := natOf second
      if 24 ≤ hour then throw .hour
      if 60 ≤ minute then throw .minute
      if 60 ≤ second then throw .second
      let micro := natOf ((fraction ++ "000000".toList).take 6)
      return .stamp ⟨year, month, day, hour, minute, second, micro, zone⟩

/-- The value of a character among the 64 digits of binary text. -/
def sextet? (c : Char) : Option Nat :=
  if 'A' ≤ c ∧ c ≤ 'Z' then some (c.toNat - 65)
  else if 'a' ≤ c ∧ c ≤ 'z' then some (c.toNat - 71)
  else if '0' ≤ c ∧ c ≤ '9' then some (c.toNat + 4)
  else if c = '+' then some 62
  else if c = '/' then some 63
  else none

/-- The bytes of binary text. `place` counts the digits since the last whole group, `left` holds the bits
    that no byte has taken, `pads` counts the pads in a row. Characters that are no digits are passed
    over, and a full group of pads ends the text. -/
def binaryBytes (place left pads : Nat) : List Char → Except Fault (List UInt8)
  | [] => if place = 0 then .ok [] else .error .invalid
  | c :: cs =>
    if c = '=' then
      if 2 ≤ place then
        if 4 ≤ place + pads + 1 then .ok [] else binaryBytes place left (pads + 1) cs
      else binaryBytes place left pads cs
    else
      match sextet? c with
      | none => binaryBytes place left pads cs
      | some n =>
        match place with
        | 0 => binaryBytes 1 n 0 cs
        | 1 => (binaryBytes 2 (n % 16) 0 cs).map ((left * 4 + n / 16).toUInt8 :: ·)
        | 2 => (binaryBytes 3 (n % 4) 0 cs).map ((left * 16 + n / 4).toUInt8 :: ·)
        | _ => (binaryBytes 0 0 0 cs).map ((left * 64 + n).toUInt8 :: ·)

/-- The bytes that a scalar denotes. -/
def binaryValue (cs : List Char) : Except Fault Data :=
  if cs.all fun c => c.toNat < 128 then (binaryBytes 0 0 0 cs).map Data.bytes else .error .invalid

/-- The truth value that a scalar denotes. -/
def truthValue (cs : List Char) : Except Fault Data :=
  let word := String.ofList (Text.lower cs)
  match truthOf? word with
  | some b => .ok (.bool b)
  | none => .error (.unknownWord word)

/-- The value of a scalar with a type that YAML defines. -/
def scalarValue (type : String) (text : List Char) : Except Fault Data :=
  match type with
  | "null" => .ok .null
  | "bool" => truthValue text
  | "int" => (integerValue text).map Data.int
  | "float" => (floatValue text).map Data.float
  | "binary" => binaryValue text
  | "timestamp" => timestampValue text
  | "str" => .ok (.str (String.ofList text))
  | _ => .error .invalid

/-- The types of scalars. -/
def scalarTypes : List String := ["null", "bool", "int", "float", "binary", "timestamp", "str"]

/-- The name of a type that YAML defines, from its tag. -/
def typeOf? (tag : String) : Option String :=
  (Text.after? (coreTag "").toList tag.toList).map String.ofList

/-- The text of a node that is read as a scalar: of a scalar its text, of a mapping that of its first default
    member. Fuel as much as there are nodes runs out only where a mapping is its own default member. -/
def Graph.scalarText (g : Graph) : Nat → Nat → Except Fault String
  | 0, _ => .error .endless
  | fuel + 1, n =>
    match g.content n with
    | .scalar text => .ok text
    | .sequence _ => .error .invalid
    | .mapping members =>
      match members.find? fun m => g.tag m.1 = coreTag "value" with
      | some (_, v) => g.scalarText fuel v
      | none => .error .invalid

/-- The value of a node that is read as a scalar of a type. A point in time is read from a scalar itself, not
    from a default member. -/
def Graph.scalarAt (g : Graph) (type : String) (n : Nat) : Except Fault Data := do
  let text ← g.scalarText (g.length + 1) n
  match type, g.content n with
  | "timestamp", .mapping _ => .error .noText
  | _, _ => scalarValue type text.toList

/-!
## Merging
-/

namespace Graph

/-- Whether the value of a member is to be merged into the mapping. -/
def isMerge (g : Graph) (m : Nat × Nat) : Bool := g.tag m.1 = coreTag "merge"

/-- A graph in which the keys of a node that mark a default member are strings like others. -/
def plainKeys (g : Graph) (n : Nat) : Graph :=
  (g.members n).foldl
    (fun g m => if g.tag m.1 = coreTag "value" then g.retag m.1 (coreTag "str") else g) g

/-- A graph in which what is to be merged into a mapping is among its members, in front of them; `front` has
    been collected so far. A mark is taken away before the mapping behind it is looked at, so a mapping
    may be merged into itself. The fuel is the number of marks. -/
def flattenWith : Nat → List (Nat × Nat) → Nat → Graph → Except Fault Graph
  | 0, _, _, g => .ok g
  | fuel + 1, front, n, g =>
    match (g.members n).find? g.isMerge with
    | none => .ok ((g.hold n (.mapping (front ++ g.members n))).plainKeys n)
    | some m => do
      let g := g.hold n (.mapping ((g.members n).erase m))
      let (more, g) ←
        match g.content m.2 with
        | .mapping _ => do
          let g ← flattenWith fuel [] m.2 g
          pure (g.members m.2, g)
        | .sequence items => do
          -- Of several mappings the last one comes first.
          let (groups, g) ← items.foldlM (fun ((groups, g) : List (List (Nat × Nat)) × Graph) item =>
            match g.content item with
            | .mapping _ => do
              let g ← flattenWith fuel [] item g
              pure (g.members item :: groups, g)
            | _ => .error .invalid) ([], g)
          pure (groups.flatten, g)
        | .scalar _ => .error .invalid
      flattenWith fuel (front ++ more) n g

/-- The number of marks for merging in a graph. -/
def marks (g : Graph) : Nat :=
  ((List.range g.length).flatMap fun n => (g.members n).filter g.isMerge).length

/-- A graph in which what is to be merged into a mapping is among its members. -/
def flatten (g : Graph) (n : Nat) : Except Fault Graph := flattenWith (g.marks + 1) [] n g

end Graph

/-!
## Collections
-/

/-- What a node becomes: the value of a scalar, or a collection of what other nodes become. -/
inductive Thing where
  | scalar (d : Data)
  | list (items : List Nat)
  | map (entries : List (Nat × Nat))
  | set (keys : List Nat)
  | pairs (items : List (Nat × Nat))
deriving Inhabited

/-- The state of building: the nodes, what they have become so far, which is nothing yet for a collection that
    is only begun, and the collections that are to be filled. -/
structure Building where
  nodes : Graph
  made : List (Nat × Option Thing) := []
  waiting : List Nat := []
deriving Inhabited

/-- The types of collections. -/
def collectionTypes : List String := ["seq", "map", "set", "omap", "pairs"]

namespace Building

/-- A node is begun, unless it was before: a scalar has its value at once, and a collection waits. -/
def begin (b : Building) (n : Nat) : Except Fault Building :=
  if (b.made.lookup n).isSome then .ok b
  else
    match typeOf? (b.nodes.tag n) with
    | none => .error .invalid
    | some type =>
      if scalarTypes.contains type then
        (b.nodes.scalarAt type n).map fun d => { b with made := (n, some (.scalar d)) :: b.made }
      else if collectionTypes.contains type then
        .ok { b with made := (n, none) :: b.made, waiting := b.waiting ++ [n] }
      else .error .invalid

/-- Whether a node can be a key. What is still to be filled cannot, and what is filled neither. -/
def isKey (b : Building) (n : Nat) : Bool :=
  match b.made.lookup n with
  | some (some (.scalar _)) => true
  | _ => false

/-- A member of a mapping is begun, its key first. -/
def beginMember (b : Building) (m : Nat × Nat) : Except Fault Building := do
  let b ← b.begin m.1
  if b.isKey m.1 then b.begin m.2 else .error .invalid

/-- The member of a mapping that has one, begun. -/
def beginPair : Building × List (Nat × Nat) → Nat → Except Fault (Building × List (Nat × Nat))
  | (b, pairs), n =>
    match b.nodes.content n with
    | .mapping [(k, v)] => do
      let b ← b.begin k
      let b ← b.begin v
      return (b, pairs ++ [(k, v)])
    | _ => .error .invalid

/-- A node has become something. -/
def became (b : Building) (n : Nat) (t : Thing) : Building := { b with made := (n, some t) :: b.made }

/-- The members of a mapping, merged and begun. -/
def beginMembers (b : Building) (n : Nat) : Except Fault Building := do
  let nodes ← b.nodes.flatten n
  (nodes.members n).foldlM beginMember { b with nodes }

/-- A collection is filled: all that it holds is begun. -/
def fill (b : Building) (n : Nat) : Except Fault Building :=
  match typeOf? (b.nodes.tag n), b.nodes.content n with
  | some "seq", .sequence items => (items.foldlM begin b).map fun b => b.became n (.list items)
  | some "map", .mapping _ => (b.beginMembers n).map fun b => b.became n (.map (b.nodes.members n))
  | some "set", .mapping _ =>
    (b.beginMembers n).map fun b => b.became n (.set ((b.nodes.members n).map Prod.fst))
  | some "omap", .sequence items | some "pairs", .sequence items =>
    (items.foldlM beginPair (b, [])).map fun (b, pairs) => b.became n (.pairs pairs)
  | _, _ => .error .invalid

/-- All collections are filled. A node waits once, so as many steps are enough as there are nodes. -/
def fillAll : Nat → Building → Except Fault Building
  | 0, b => .ok b
  | fuel + 1, b =>
    match b.waiting with
    | [] => .ok b
    | n :: rest => do fillAll fuel (← fill { b with waiting := rest } n)

/-- What a node that can hold itself becomes: a mapping or a list. -/
def collection (b : Building) (n : Nat) : Collection :=
  match b.made.lookup n with
  | some (some (.map _)) => .map
  | _ => .list

/-- The value of a node within some collections, by their numbers. One of these holds itself by it. A way into
    the nodes meets none twice, so fuel as much as there are nodes does not run out. -/
def value (b : Building) : Nat → List Nat → Nat → Data
  | 0, _, _ => .null
  | fuel + 1, within, n =>
    if within.contains n then .enclosing (b.collection n)
    else
      let below := b.value fuel (n :: within)
      match b.made.lookup n with
      | some (some (.scalar d)) => d
      | some (some (.list items)) => .list (items.map below)
      | some (some (.map entries)) =>
        .map (entries.foldl (fun es (k, v) => Data.insert (below k) (below v) es) [])
      | some (some (.set keys)) =>
        .set ((keys.foldl (fun es k => Data.insert (below k) .null es) []).map Prod.fst)
      | some (some (.pairs items)) => .list (items.map fun (k, v) => .tuple [below k, below v])
      | _ => .null

end Building

/-- The value of a document. -/
def Document.value (d : Document) : Except Fault Data := do
  let b ← ({ nodes := d.nodes } : Building).begin d.root
  let b ← b.fillAll (d.nodes.length + 1)
  return b.value (d.nodes.length + 1) [] d.root

/-- A sequence whose only item is the sequence itself. -/
example : Document.value ⟨[⟨coreTag "seq", .sequence [0]⟩], 0⟩ = .ok (.list [.enclosing .list]) := rfl

/-- The value of a YAML text. An empty text has the value null. -/
def load (cs : List Char) : Except Fault Data := do
  match ← Document.ofTokens (Token.scan cs) with
  | none => return .null
  | some d => d.value

end Unmark.Yaml
