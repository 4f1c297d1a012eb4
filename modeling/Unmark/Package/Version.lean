import Unmark.Text.Case
import Unmark.Text.Space

/-
Module: Unmark.Package.Version
Layer: Package
Purpose: Versions of packages and their order. A version has an epoch, release numbers and, as wanted, marks
  of a pre-release, of a post-release and of work in progress, and a local label. Release numbers count
  as if zeros followed them. Work in progress comes before the release that it leads to, a pre-release
  before the release and a post-release after it.
Main exports: Version, Version.ofString?, Version.compare, Version.agrees, Version.text
-/

namespace Unmark.Package

/-- The phases of pre-releases. -/
inductive Phase where
  | alpha | beta | candidate
deriving DecidableEq, Repr, Inhabited

/-- The place of a phase among the phases. -/
def Phase.rank : Phase → Nat
  | alpha => 0
  | beta => 1
  | candidate => 2

/-- The mark of a phase where a version is written. -/
def Phase.mark : Phase → String
  | alpha => "a"
  | beta => "b"
  | candidate => "rc"

/-- A part of a local label. -/
inductive LabelPart where
  | word (s : String)
  | number (n : Nat)
deriving DecidableEq, Repr, Inhabited

/-- Words come before numbers. -/
def LabelPart.compare : LabelPart → LabelPart → Ordering
  | word a, word b => Ord.compare a b
  | word _, number _ => .lt
  | number _, word _ => .gt
  | number a, number b => Ord.compare a b

/-- The text of a part of a label. -/
def LabelPart.text : LabelPart → String
  | word s => s
  | number n => toString n

/-- A version. -/
structure Version where
  epoch : Nat := 0
  release : List Nat
  pre : Option (Phase × Nat) := none
  post : Option Nat := none
  dev : Option Nat := none
  label : List LabelPart := []
deriving DecidableEq, Repr, Inhabited

namespace Version

/-! ## Order -/

/-- Release numbers without the zeros at their end. -/
def significant (release : List Nat) : List Nat := (release.reverse.dropWhile (· = 0)).reverse

/-- The place of a version among those with its release numbers, as far as pre-releases count: work in
    progress on the release itself comes first, the release last. -/
def preKey (v : Version) : List Nat :=
  match v.pre, v.post, v.dev with
  | some (phase, n), _, _ => [1 + phase.rank, n]
  | none, none, some _ => [0]
  | none, _, _ => [4]

/-- A version without a post-release comes before its post-releases. -/
def postKey (v : Version) : List Nat :=
  match v.post with
  | none => [0]
  | some n => [1, n]

/-- Work in progress comes before what it leads to. -/
def devKey (v : Version) : List Nat :=
  match v.dev with
  | some n => [0, n]
  | none => [1]

/-- The order of labels; a version without a label comes first. -/
def compareLabels : List LabelPart → List LabelPart → Ordering
  | [], [] => .eq
  | [], _ :: _ => .lt
  | _ :: _, [] => .gt
  | a :: as, b :: bs => (a.compare b).then (compareLabels as bs)

/-- The order of versions. -/
def compare (a b : Version) : Ordering :=
  (Ord.compare a.epoch b.epoch).then <|
    (Ord.compare (significant a.release) (significant b.release)).then <|
      (Ord.compare a.preKey b.preKey).then <|
        (Ord.compare a.postKey b.postKey).then <|
          (Ord.compare a.devKey b.devKey).then (compareLabels a.label b.label)

/-- Whether two versions have the same place in the order. -/
def agrees (a b : Version) : Bool := a.compare b == .eq

/-- Whether a version is a pre-release or work in progress. -/
def isPre (v : Version) : Bool := v.pre.isSome || v.dev.isSome

/-- A version without its label. -/
def unlabelled (v : Version) : Version := { v with label := [] }

/-- The epoch and the release numbers of a version. -/
def base (v : Version) : Version := { epoch := v.epoch, release := v.release }

/-- The one text by which a version is written, whatever text it was read from. -/
def text (v : Version) : String :=
  let epoch := if v.epoch = 0 then "" else s!"{v.epoch}!"
  let pre := match v.pre with
    | none => ""
    | some (phase, n) => s!"{phase.mark}{n}"
  let post := match v.post with
    | none => ""
    | some n => s!".post{n}"
  let dev := match v.dev with
    | none => ""
    | some n => s!".dev{n}"
  let label := if v.label.isEmpty then "" else "+" ++ ".".intercalate (v.label.map LabelPart.text)
  epoch ++ ".".intercalate (v.release.map toString) ++ pre ++ post ++ dev ++ label

/-! ## Reading -/

/-- A digit of a version. -/
def isDigit (c : Char) : Bool := '0' ≤ c && c ≤ '9'

/-- The number that digits denote. -/
def numberOf (ds : List Char) : Nat := ds.foldl (fun n d => n * 10 + (d.toNat - 48)) 0

/-- The number at the start of a text. -/
def number? (cs : List Char) : Option (Nat × List Char) :=
  let ds := cs.takeWhile isDigit
  if ds.isEmpty then none else some (numberOf ds, cs.dropWhile isDigit)

/-- The number at the start of a text, or zero if there is none. -/
def numberOrZero (cs : List Char) : Nat × List Char := (number? cs).getD (0, cs)

/-- A text without the separator that it may start with. -/
def afterSeparator : List Char → List Char
  | c :: cs => if c = '-' ∨ c = '_' ∨ c = '.' then cs else c :: cs
  | [] => []

/-- The release numbers after the first one. Each number uses up a character, so the length of the text is
    enough fuel. -/
def moreNumbers : Nat → List Char → List Nat × List Char
  | 0, cs => ([], cs)
  | fuel + 1, '.' :: cs =>
    match number? cs with
    | some (n, rest) =>
      let (ns, rest) := moreNumbers fuel rest
      (n :: ns, rest)
    | none => ([], '.' :: cs)
  | _, cs => ([], cs)

/-- The epoch and the release numbers at the start of a text. A letter `v` may come before them. -/
def start? (cs : List Char) : Option (Version × List Char) := do
  let cs := match cs with
    | 'v' :: cs => cs
    | _ => cs
  let (n, rest) ← number? cs
  let (epoch, n, rest) ←
    match rest with
    | '!' :: rest => (number? rest).map fun (m, rest) => (n, m, rest)
    | _ => some (0, n, rest)
  let (ns, rest) := moreNumbers rest.length rest
  return ({ epoch, release := n :: ns }, rest)

/-- The first of some spellings that a text starts with, and the rest of the text. -/
def spelled? {α : Type} (cs : List Char) : List (String × α) → Option (α × List Char)
  | [] => none
  | (spelling, meaning) :: more =>
    match Text.after? spelling.toList cs with
    | some rest => some (meaning, rest)
    | none => spelled? cs more

/-- A mark with its number, which is zero if it is left out. Separators may stand around the mark. -/
def mark? {α : Type} (spellings : List (String × α)) (cs : List Char) :
    Option ((α × Nat) × List Char) :=
  (spelled? (afterSeparator cs) spellings).map fun (meaning, rest) =>
    let (n, rest) := numberOrZero (afterSeparator rest)
    ((meaning, n), rest)

/-- The spellings of the phases. -/
def phases : List (String × Phase) :=
  [("alpha", .alpha), ("beta", .beta), ("preview", .candidate), ("pre", .candidate), ("a", .alpha),
   ("b", .beta), ("c", .candidate), ("rc", .candidate)]

/-- The post-release at the start of a text. A number after a hyphen is one too. -/
def post? (cs : List Char) : Option (Nat × List Char) :=
  let bare :=
    match cs with
    | '-' :: rest => number? rest
    | _ => none
  bare.or ((mark? [("post", ()), ("rev", ()), ("r", ())] cs).map fun ((_, n), rest) => (n, rest))

/-- A part of a label from its characters. -/
def labelPart (cs : List Char) : LabelPart :=
  if cs.all isDigit then .number (numberOf cs) else .word (String.ofList cs)

/-- A character of a label part. -/
def isLabelChar (c : Char) : Bool := isDigit c || ('a' ≤ c && c ≤ 'z')

/-- A label from its characters; no part of it is empty. -/
def label? (cs : List Char) : Option (List LabelPart) :=
  let parts := Text.splitAt '.' (cs.map fun c => if c = '-' ∨ c = '_' then '.' else c)
  if parts.all fun p => !p.isEmpty && p.all isLabelChar then some (parts.map labelPart) else none

/-- The rest of a version after its release numbers. -/
def finish? (v : Version) (cs : List Char) : Option Version :=
  let (pre, cs) := match mark? phases cs with
    | some (p, rest) => (some p, rest)
    | none => (none, cs)
  let (post, cs) := match post? cs with
    | some (n, rest) => (some n, rest)
    | none => (none, cs)
  let (dev, cs) := match mark? [("dev", ())] cs with
    | some ((_, n), rest) => (some n, rest)
    | none => (none, cs)
  let v := { v with pre, post, dev }
  match cs with
  | [] => some v
  | '+' :: rest => (label? rest).map fun label => { v with label }
  | _ => none

/-- The version that a text denotes, in letters of either case and with white space around it. -/
def ofChars? (cs : List Char) : Option Version := do
  let (v, rest) ← start? (Text.lower (Text.trim cs))
  v.finish? rest

/-- The version that a text denotes. -/
def ofString? (s : String) : Option Version := ofChars? s.toList

end Version

end Unmark.Package
