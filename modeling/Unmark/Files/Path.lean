import Unmark.Text.Space

/-
Module: Unmark.Files.Path
Layer: Files
Purpose: Names of files. A path is a list of parts; empty parts and parts that are a single full stop say
  nothing and are left out, two full stops lead to the directory above and are kept.
Main exports: Path, Path.ofString, Path.text, Path.collapsed, Path.absolute, Path.isUnnameable
-/

namespace Unmark.Files

/-- A path. Its root is empty for a path that starts at the current directory. -/
structure Path where
  root : String
  parts : List String
deriving DecidableEq, Repr, Inhabited

namespace Path

/-- The root that a text starts with: two slashes and no third are a root of their own. -/
def rootOf (cs : List Char) : String :=
  match (cs.takeWhile (· = '/')).length with
  | 0 => ""
  | 2 => "//"
  | _ => "/"

/-- The path that a text names. -/
def ofString (s : String) : Path :=
  let cs := s.toList
  let parts := ((Text.splitAt '/' cs).map String.ofList).filter fun p => p ≠ "" && p ≠ "."
  ⟨rootOf cs, parts⟩

/-- The text of a path. The empty path is the current directory. -/
def text (p : Path) : String :=
  if p.root = "" ∧ p.parts = [] then "." else p.root ++ String.intercalate "/" p.parts

/-- The parts of a path once each step up has cancelled the step down before it. `here` are the parts so far,
    last one first. Steps up from a root lead nowhere. -/
def collapse (atRoot : Bool) (here : List String) : List String → List String
  | [] => here.reverse
  | p :: ps =>
    if p = ".." then
      match here with
      | [] => collapse atRoot (if atRoot then [] else [".."]) ps
      | q :: rest => if q = ".." then collapse atRoot (p :: here) ps else collapse atRoot rest ps
    else collapse atRoot (p :: here) ps

/-- A path without steps up, as far as it has parts to step up from. -/
def collapsed (p : Path) : Path := ⟨p.root, collapse (p.root ≠ "") [] p.parts⟩

/-- The text of a path from the root on, for a path from a directory of that name. -/
def absolute (directory : String) (p : Path) : String :=
  if p.root = "" then String.intercalate "/" (directory :: p.parts) else p.text

/-- Whether a path has a null character, which the name of a file has not. -/
def isUnnameable (p : Path) : Bool := p.text.toList.contains '\x00'

/-- The last part of a path. -/
def name (p : Path) : String := p.parts.getLastD ""

end Path

end Unmark.Files
