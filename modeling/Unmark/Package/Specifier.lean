import Unmark.Package.Version

/-
Module: Unmark.Package.Specifier
Layer: Package
Purpose: What a requirement asks of a version. A requirement is a list of clauses, separated by commas, all of
  which have to hold; the empty list asks for nothing. A clause compares with a version, or with the
  start of the release numbers, or with a text letter by letter.
Main exports: Relation, Clause, Clause.admits, Clause.ofChars?, Requirement, Requirement.ofString?,
  Requirement.admits
-/

namespace Unmark.Package

/-- How a clause compares a version with its own. -/
inductive Relation where
  | compatible | equal | different | atMost | atLeast | below | above
deriving DecidableEq, Repr, Inhabited

/-- A clause of a requirement. -/
inductive Clause where
  | version (r : Relation) (v : Version)
  /-- The release numbers start as those of `v`, or do not. -/
  | family (negated : Bool) (v : Version)
  /-- The text of the version is this one, in letters of either case. -/
  | literal (text : String)
deriving DecidableEq, Repr, Inhabited

namespace Clause

/-- Whether the release numbers of `v`, with zeros after them, start with those of `start`. -/
def inFamily (start v : Version) : Bool :=
  v.epoch == start.epoch
    && (v.release ++ List.replicate start.release.length 0).take start.release.length == start.release

/-- Whether a version is in a relation to that of a clause. A label counts only where the clause has one.
    The pre-releases of a version do not count as below it, and its post-releases not as above it,
    unless the clause itself names such a version. -/
def relates (r : Relation) (asked v : Version) : Bool :=
  let plain := v.unlabelled
  let sameBase := v.base.agrees asked.base
  match r with
  | .equal => (if asked.label.isEmpty then plain else v).agrees asked
  | .different => !(if asked.label.isEmpty then plain else v).agrees asked
  | .atMost => plain.compare asked != .gt
  | .atLeast => plain.compare asked != .lt
  | .compatible =>
    plain.compare asked != .lt && inFamily { asked with release := asked.release.dropLast } v
  | .below => v.compare asked == .lt && !(!asked.isPre && v.isPre && sameBase)
  | .above =>
    v.compare asked == .gt && !(asked.post.isNone && v.post.isSome && sameBase)
      && !(!v.label.isEmpty && sameBase)

/-- Whether a clause holds of a version. -/
def admits (v : Version) : Clause → Bool
  | version r asked => relates r asked v
  | family negated start => inFamily start v != negated
  | literal asked => Text.lowerString asked == Text.lowerString v.text

/-- The signs of relations, in the order in which they are looked for. -/
def signs : List (String × Relation) :=
  [("~=", .compatible), ("==", .equal), ("!=", .different), ("<=", .atMost), (">=", .atLeast),
   ("<", .below), (">", .above)]

/-- The start of release numbers that ends in a full stop and an asterisk. -/
def family? (cs : List Char) : Option Version :=
  match (Text.trim cs).reverse with
  | '*' :: '.' :: front =>
    match Version.start? (Text.lower (Text.trimStartBy Text.isSpace front.reverse)) with
    | some (v, []) => some v
    | _ => none
  | _ => none

/-- The clause that compares in a relation with a version. Only equality knows families and labels, and
    compatibility asks for two release numbers. -/
def compared? (r : Relation) (cs : List Char) : Option Clause :=
  match r with
  | .equal | .different =>
    match family? cs with
    | some v => some (.family (r == .different) v)
    | none => (Version.ofChars? cs).map (.version r)
  | _ => do
    let v ← Version.ofChars? cs
    if !v.label.isEmpty then none
    else if r = .compatible ∧ v.release.length < 2 then none
    else some (.version r v)

/-- The text that a literal clause asks for: no white space, semicolon or closing bracket is in it. -/
def literal? (cs : List Char) : Option Clause :=
  let cs := Text.trim cs
  if cs.any fun c => Text.isSpace c || c = ';' || c = ')' then none
  else some (.literal (String.ofList cs))

/-- The clause that a text denotes. -/
def ofChars? (cs : List Char) : Option Clause :=
  let cs := Text.trim cs
  match Text.after? "===".toList cs with
  | some rest => literal? rest
  | none =>
    match Version.spelled? cs signs with
    | some (r, rest) => compared? r rest
    | none => none

end Clause

/-- What is asked of a version: clauses that all have to hold. -/
abbrev Requirement := List Clause

namespace Requirement

/-- All or none of some values. -/
def all? {α : Type} : List (Option α) → Option (List α)
  | [] => some []
  | none :: _ => none
  | some a :: rest => (all? rest).map (a :: ·)

/-- The requirement that a text denotes. Nothing between two commas asks for nothing. -/
def ofString? (s : String) : Option Requirement :=
  let clauses := ((Text.splitAt ',' s.toList).map Text.trim).filter fun c => !c.isEmpty
  all? (clauses.map Clause.ofChars?)

/-- Whether a version is what a requirement asks for. -/
def admits (r : Requirement) (v : Version) : Bool := r.all (Clause.admits v)

end Requirement

end Unmark.Package
