import Unmark.Yaml.Resolve

/-
Module: Unmark.Yaml.Node
Layer: Yaml
Purpose: The nodes of a YAML document: scalars, sequences and mappings, each with its tag. They are read from
  tokens into a graph, in which each has a number. An alias stands for the node with its anchor, be it one
  that the alias is in: a node can hold itself.

  Reading is bounded by fuel, a multiple of the number of tokens: a node takes a token at least, unless it
  is an empty one between two others.
Main exports: Node, Graph, Document, Document.ofTokens
-/

namespace Unmark.Yaml

/-- What a node holds: a text, or other nodes by their numbers. -/
inductive Content where
  | scalar (text : String)
  | sequence (items : List Nat)
  | mapping (members : List (Nat × Nat))
deriving DecidableEq, Repr, Inhabited

/-- A node of a YAML document. -/
structure Node where
  tag : String
  content : Content
deriving DecidableEq, Repr, Inhabited

/-- The nodes of a document. The number of a node is its place among them. -/
abbrev Graph := List Node

namespace Graph

/-- The tag of a node. -/
def tag (g : Graph) (n : Nat) : String := (g.getD n default).tag

/-- What a node holds. -/
def content (g : Graph) (n : Nat) : Content := (g.getD n default).content

/-- The members of a mapping; other nodes have none. -/
def members (g : Graph) (n : Nat) : List (Nat × Nat) :=
  match g.content n with
  | .mapping ms => ms
  | _ => []

/-- A graph in which a node holds something else. -/
def hold (g : Graph) (n : Nat) (c : Content) : Graph := g.modify n fun node => { node with content := c }

/-- A graph in which a node has another tag. -/
def retag (g : Graph) (n : Nat) (tag : String) : Graph := g.modify n fun node => { node with tag }

end Graph

namespace Node

/-- A node where nothing is written. -/
def empty : Node := ⟨coreTag "null", .scalar ""⟩

/-!
## Reading
-/

/-- What reading goes on with: the tokens ahead, the nodes so far, and the anchors with the numbers of their
    nodes. A node that has begun has its anchor, though it has not ended. -/
structure Input where
  tokens : List Token
  nodes : Graph := []
  anchors : List (String × Nat) := []
deriving Inhabited

namespace Input

def head (i : Input) : Token := i.tokens.headD (.fault .invalid)

def next (i : Input) : Input := { i with tokens := i.tokens.drop 1 }

/-- Why a token cannot stand where it stands. -/
def refuse (i : Input) : Fault :=
  match i.head with
  | .fault f => f
  | _ => .invalid

/-- Input after a given token. -/
def expect (t : Token) (i : Input) : Except Fault Input :=
  if i.head = t then .ok i.next else .error i.refuse

/-- One more node, under an anchor if it has one. An anchor is used once. -/
def add (anchor : Option String) (node : Node) (i : Input) : Except Fault (Nat × Input) :=
  let n := i.nodes.length
  let i := { i with nodes := i.nodes ++ [node] }
  match anchor with
  | none => .ok (n, i)
  | some a =>
    if (i.anchors.lookup a).isSome then .error i.refuse
    else .ok (n, { i with anchors := (a, n) :: i.anchors })

/-- A node where nothing is written. -/
def addEmpty (i : Input) : Nat × Input := (i.nodes.length, { i with nodes := i.nodes ++ [Node.empty] })

/-- Input in which a node holds what was read for it. -/
def hold (n : Nat) (c : Content) (i : Input) : Input := { i with nodes := i.nodes.hold n c }

end Input

/-- The properties of a node: an anchor and a tag, in either order, each at most once. -/
def properties (i : Input) : Option String × Option (Option String × String) × Input :=
  match i.head with
  | .anchor a =>
    match i.next.head with
    | .tag h s => (some a, some (h, s), i.next.next)
    | _ => (some a, none, i.next)
  | .tag h s =>
    match i.next.head with
    | .anchor a => (some a, some (h, s), i.next.next)
    | _ => (none, some (h, s), i.next)
  | _ => (none, none, i)

/-- The handles of tags, each with what it stands for. -/
abbrev Handles := List (String × String)

/-- The tag that a written one stands for. -/
def fullTag (hs : Handles) : Option (Option String × String) → Except Fault (Option String)
  | none => .ok none
  | some (none, suffix) => .ok (some suffix)
  | some (some handle, suffix) =>
    match hs.lookup handle with
    | some lead => .ok (some (lead ++ suffix))
    | none => .error .invalid

/-- The tag of a collection; one that is written as a single mark says nothing. -/
def collectionTag (written : Option String) (default : String) : String :=
  match written with
  | none => coreTag default
  | some t => if t = "!" then coreTag default else t

/-- The tag of a scalar. A plain scalar without a tag has the type of its form, and so has any scalar whose
    tag is a single mark. -/
def scalarTag (written : Option String) (plain : Bool) (text : String) : String :=
  match written with
  | none => if plain then resolve text else coreTag "str"
  | some t => if t = "!" then resolve text else t

/-- Where a node may stand: within brackets, in a block, or as a member of a block mapping, where a sequence
    need not be indented. -/
inductive Position where
  | flow
  | block
  | member
deriving DecidableEq, Repr

mutual

/-- A node, by its number. -/
def read (hs : Handles) (p : Position) (fuel : Nat) (i : Input) : Except Fault (Nat × Input) :=
  match fuel with
  | 0 => .error .invalid
  | fuel + 1 =>
    match i.head with
    | .alias a =>
      match i.anchors.lookup a with
      | some n => .ok (n, i.next)
      | none => .error .invalid
    | _ => do
      let (anchor, written, i) := properties i
      let tag ← fullTag hs written
      body hs p fuel anchor tag i

/-- A node after its properties. A collection has its number before what it holds is read. -/
def body (hs : Handles) (p : Position) (fuel : Nat) (anchor tag : Option String) (i : Input) :
    Except Fault (Nat × Input) :=
  match fuel with
  | 0 => .error .invalid
  | fuel + 1 => do
    let sequence : Node := ⟨collectionTag tag "seq", .sequence []⟩
    let mapping : Node := ⟨collectionTag tag "map", .mapping []⟩
    match i.head with
    | .scalar text plain => (i.add anchor ⟨scalarTag tag plain text, .scalar text⟩).map fun (n, i) => (n, i.next)
    | .flowSequenceStart => do
      let (n, i) ← i.add anchor sequence
      let (items, i) ← flowItems hs fuel true i.next
      return (n, i.hold n (.sequence items))
    | .flowMappingStart => do
      let (n, i) ← i.add anchor mapping
      let (members, i) ← flowMembers hs fuel true i.next
      return (n, i.hold n (.mapping members))
    | .blockSequenceStart =>
      if p = .flow then throw i.refuse
      let (n, i) ← i.add anchor sequence
      let (items, i) ← blockItems hs fuel i.next
      return (n, (← i.expect .blockEnd).hold n (.sequence items))
    | .blockMappingStart =>
      if p = .flow then throw i.refuse
      let (n, i) ← i.add anchor mapping
      let (members, i) ← blockMembers hs fuel i.next
      return (n, (← i.expect .blockEnd).hold n (.mapping members))
    | t =>
      if t = .blockEntry ∧ p = .member then
        let (n, i) ← i.add anchor sequence
        let (items, i) ← blockItems hs fuel i
        return (n, i.hold n (.sequence items))
      else if anchor.isSome || tag.isSome then i.add anchor ⟨scalarTag tag true "", .scalar ""⟩
      else throw i.refuse

/-- The items of a block sequence, indented or not. -/
def blockItems (hs : Handles) (fuel : Nat) (i : Input) : Except Fault (List Nat × Input) :=
  match fuel with
  | 0 => .error .invalid
  | fuel + 1 =>
    match i.head with
    | .blockEntry => do
      let i := i.next
      let (n, i) ←
        match i.head with
        | .blockEntry | .key | .value | .blockEnd => pure i.addEmpty
        | _ => read hs .block fuel i
      let (ns, i) ← blockItems hs fuel i
      return (n :: ns, i)
    | _ => .ok ([], i)

/-- A key or a value of a block mapping; it may be missing. -/
def blockPart (hs : Handles) (fuel : Nat) (i : Input) : Except Fault (Nat × Input) :=
  match fuel with
  | 0 => .error .invalid
  | fuel + 1 =>
    match i.head with
    | .key | .value | .blockEnd => .ok i.addEmpty
    | _ => read hs .member fuel i

/-- The members of a block mapping. -/
def blockMembers (hs : Handles) (fuel : Nat) (i : Input) : Except Fault (List (Nat × Nat) × Input) :=
  match fuel with
  | 0 => .error .invalid
  | fuel + 1 => do
    if i.head ≠ .key then return ([], i)
    let (k, i) ← blockPart hs fuel i.next
    let (v, i) ← if i.head = .value then blockPart hs fuel i.next else pure i.addEmpty
    let (ms, i) ← blockMembers hs fuel i
    return ((k, v) :: ms, i)

/-- A key or a value within brackets, which `close` closes; it may be missing. -/
def flowPart (hs : Handles) (close : Token) (fuel : Nat) (i : Input) : Except Fault (Nat × Input) :=
  match fuel with
  | 0 => .error .invalid
  | fuel + 1 =>
    if i.head = .value ∨ i.head = .flowEntry ∨ i.head = close then .ok i.addEmpty
    else read hs .flow fuel i

/-- A value within brackets, with its mark; both may be missing. -/
def flowValue (hs : Handles) (close : Token) (fuel : Nat) (i : Input) : Except Fault (Nat × Input) :=
  match fuel with
  | 0 => .error .invalid
  | fuel + 1 =>
    if i.head ≠ .value then .ok i.addEmpty
    else if i.next.head = .flowEntry ∨ i.next.head = close then .ok i.next.addEmpty
    else read hs .flow fuel i.next

/-- The items of a sequence in brackets. A key makes an item that is a mapping of its own. -/
def flowItems (hs : Handles) (fuel : Nat) (first : Bool) (i : Input) : Except Fault (List Nat × Input) :=
  match fuel with
  | 0 => .error .invalid
  | fuel + 1 => do
    if i.head = .flowSequenceEnd then return ([], i.next)
    let i ← if first then pure i else i.expect .flowEntry
    if i.head = .flowSequenceEnd then return ([], i.next)
    let (n, i) ←
      if i.head = .key then do
        let (n, i) ← i.add none ⟨coreTag "map", .mapping []⟩
        let (k, i) ← flowPart hs .flowSequenceEnd fuel i.next
        let (v, i) ← flowValue hs .flowSequenceEnd fuel i
        pure (n, i.hold n (.mapping [(k, v)]))
      else read hs .flow fuel i
    let (ns, i) ← flowItems hs fuel false i
    return (n :: ns, i)

/-- The members of a mapping in brackets. A node without the mark of a key is a key without a value. -/
def flowMembers (hs : Handles) (fuel : Nat) (first : Bool) (i : Input) :
    Except Fault (List (Nat × Nat) × Input) :=
  match fuel with
  | 0 => .error .invalid
  | fuel + 1 => do
    if i.head = .flowMappingEnd then return ([], i.next)
    let i ← if first then pure i else i.expect .flowEntry
    if i.head = .flowMappingEnd then return ([], i.next)
    let (member, i) ←
      if i.head = .key then do
        let (k, i) ← flowPart hs .flowMappingEnd fuel i.next
        let (v, i) ← flowValue hs .flowMappingEnd fuel i
        pure ((k, v), i)
      else do
        let (k, i) ← read hs .flow fuel i
        let (v, i) := i.addEmpty
        pure ((k, v), i)
    let (ms, i) ← flowMembers hs fuel false i
    return (member :: ms, i)

end

/-- The handles that directives declare, and what follows these. A version is given once, and its first
    number is one; a handle is declared once. -/
def directives (versioned : Bool) (hs : Handles) : List Token → Except Fault (Handles × List Token)
  | .versionDirective major :: ts =>
    if versioned || major ≠ 1 then .error .invalid else directives true hs ts
  | .tagDirective handle lead :: ts =>
    if (hs.lookup handle).isSome then .error .invalid
    else directives versioned ((handle, lead) :: hs) ts
  | .otherDirective :: ts => directives versioned hs ts
  | ts => .ok (hs, ts)

/-- Handles that need no directive. -/
def knownHandles : Handles := [("!", "!"), ("!!", "tag:yaml.org,2002:")]

end Node

/-- A document: its nodes, and the number of the one that holds all others. -/
structure Document where
  nodes : Graph
  root : Nat
deriving DecidableEq, Repr, Inhabited

/-- The document of a text, if there is one. No second one may follow it. -/
def Document.ofTokens (ts : List Token) : Except Fault (Option Document) := do
  let fuel := 8 * ts.length + 16
  let ended (n : Nat) (i : Node.Input) : Except Fault (Option Document) := do
    let behind : Node.Input := { i with tokens := i.tokens.dropWhile (· = .documentEnd) }
    discard (behind.expect .streamEnd)
    return some ⟨i.nodes, n⟩
  match ts.headD .streamEnd with
  | .streamEnd => return none
  | .versionDirective _ | .tagDirective .. | .otherDirective | .documentStart => do
    let (hs, rest) ← Node.directives false [] ts
    let i ← ({ tokens := rest } : Node.Input).expect .documentStart
    let (n, i) ←
      match i.head with
      | .versionDirective _ | .tagDirective .. | .otherDirective | .documentStart | .documentEnd
      | .streamEnd => pure i.addEmpty
      | _ => Node.read (hs ++ Node.knownHandles) .block fuel i
    ended n i
  | _ => do
    let (n, i) ← Node.read Node.knownHandles .block fuel { tokens := ts }
    ended n i

/-- A sequence under an anchor whose only item is an alias for it. -/
example : Document.ofTokens [.anchor "a", .flowSequenceStart, .alias "a", .flowSequenceEnd, .streamEnd] =
    .ok (some ⟨[⟨coreTag "seq", .sequence [0]⟩], 0⟩) := rfl

end Unmark.Yaml
