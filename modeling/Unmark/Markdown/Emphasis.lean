import Unmark.Markdown.Token
import Unmark.Text.Punctuation
import Unmark.Text.Space

/-
Module: Unmark.Markdown.Emphasis
Layer: Markdown
Purpose: Emphasis. A run of asterisks or underscores may open emphasis, close it, or do both, as the
  characters around it say. Runs are matched from the inside out: a run that may close looks for the
  nearest run of the same mark that may open, and what lies between them is emphasized, strongly if two
  marks of each are left. Runs between the two that found no partner are text. A run that is used up
  leaves an empty text in its place, which is kept within emphasis and dropped outside.
Main exports: Run, Run.of, Piece, emphasize
-/

namespace Unmark.Markdown

/-- A run of one mark. -/
structure Run where
  mark : Char
  length : Nat
  opens : Bool
  closes : Bool
deriving Inhabited

/-- Whether a run may open and close emphasis, from the characters before and after it; the ends of a text
    count as white space. -/
def Run.of (mark : Char) (length : Nat) (before after : Char) : Run :=
  let spaceBefore := Text.isSpace before
  let spaceAfter := Text.isSpace after
  let markBefore := !spaceBefore && Text.isSign before
  let markAfter := !spaceAfter && Text.isSign after
  let left := !spaceAfter && (!markAfter || spaceBefore || markBefore)
  let right := !spaceBefore && (!markBefore || spaceAfter || markAfter)
  if mark = '_' then ⟨mark, length, left && (!right || markBefore), right && (!left || markAfter)⟩
  else ⟨mark, length, left, right⟩

/-- A piece of a line: a token, or a run of marks. -/
inductive Piece where
  | token (t : Token)
  | run (r : Run)
deriving Inhabited

/-- A run that may open emphasis, the number of its marks that are left, and the tokens found after it,
    last one first. -/
structure Opener where
  run : Run
  left : Nat
  inside : List Token
deriving Inhabited

/-- Marks as text. -/
def marks (mark : Char) (n : Nat) : Token := .leaf .text (String.ofList (List.replicate n mark))

/-- What an opener and the tokens after it come to if it opens nothing more, last token first. -/
def Opener.plain (o : Opener) : List Token := o.inside ++ [marks o.run.mark o.left]

/-- Whether an opener matches a run that closes. Two runs of which one may both open and close do not match
    if their lengths add up to a multiple of three, unless both are multiples of three. -/
def Opener.accepts (o : Opener) (r : Run) : Bool :=
  o.run.mark = r.mark &&
    !((o.run.closes || r.opens) && (o.run.length + r.length) % 3 = 0 && r.length % 3 ≠ 0)

/-- Openers, the innermost first, and the tokens before all of them, last one first. -/
structure Nest where
  openers : List Opener := []
  base : List Token := []
deriving Inhabited

namespace Nest

/-- A nest with tokens, last one first, in its innermost place. -/
def push (n : Nest) (ts : List Token) : Nest :=
  match n.openers with
  | [] => { n with base := ts ++ n.base }
  | o :: os => { n with openers := { o with inside := ts ++ o.inside } :: os }

/-- The nearest opener that a run closes, what lies after it, and the openers around it. -/
def opener? (r : Run) : List Opener → Option (List Token × Opener × List Opener)
  | [] => none
  | o :: os =>
    if o.accepts r then some ([], o, os)
    else (opener? r os).map fun (inside, found, around) => (o.plain ++ inside, found, around)

/-- A nest after `left` marks of a run have closed what they can, and the number of those that have closed
    nothing. -/
def close (r : Run) (left : Nat) (n : Nest) : Nat × Nest :=
  if left = 0 then (0, n)
  else
    match opener? r n.openers with
    | none => (left, n)
    | some (inside, o, around) =>
      let strong := 2 ≤ left && 2 ≤ o.left
      let used := if strong then 2 else 1
      let token := Token.parent (if strong then .strong else .emphasis) (inside ++ o.inside).reverse
      let outer : Nest := { n with openers := around }
      let next :=
        if o.left ≤ used then outer.push [token, marks o.run.mark 0]
        else { n with openers := { o with left := o.left - used, inside := [token] } :: around }
      close r (left - used) next
termination_by left
decreasing_by
  split <;> omega

/-- A nest with one more piece. -/
def add (n : Nest) : Piece → Nest
  | .token t => n.push [t]
  | .run r =>
    let (left, n) := if r.closes then n.close r r.length else (r.length, n)
    if left ≠ 0 ∧ r.opens then { n with openers := ⟨r, left, []⟩ :: n.openers }
    else n.push [marks r.mark left]

/-- The tokens of a nest in which no more emphasis can close. -/
def tokens (n : Nest) : List Token := (n.openers.flatMap Opener.plain ++ n.base).reverse

end Nest

/-- Whether a token is text without characters. -/
def isEmptyText : Token → Bool
  | .mk .text raw _ _ _ _ => raw == some ""
  | _ => false

/-- The tokens that pieces come to once their runs are matched. -/
def emphasize (ps : List Piece) : List Token :=
  (ps.foldl Nest.add {}).tokens.filter fun t => !isEmptyText t

end Unmark.Markdown
