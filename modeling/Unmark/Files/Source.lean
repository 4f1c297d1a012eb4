import Unmark.Charset.Detect
import Unmark.Data
import Unmark.Failure
import Unmark.Files.Store

/-
Module: Unmark.Files.Source
Layer: Files
Purpose: Where a text comes from: from itself, from a file, from bytes or from a stream. A short text of one
  line that names a file stands for the content of the file. A stream is read from its start if it can
  go there, and from where it is otherwise.
Main exports: Source, Stream, Stream.readRest, Source.load
-/

namespace Unmark.Files

/-- What reading a stream gives. A broken stream gives a value that is neither bytes nor text. -/
inductive StreamContent where
  | bytes (content : List UInt8)
  | text (content : List Char)
  | other (typeName : String)
deriving Inhabited

/-- A stream: its content, how many of its units were read, and whether it can go back to its start. -/
structure Stream where
  content : StreamContent
  read : Nat := 0
  seekable : Bool := true
deriving Inhabited

/-- Where a text comes from. -/
inductive Source where
  | text (s : String)
  | path (p : Path)
  | bytes (content : List UInt8)
  | stream (s : Stream)
  | other (typeName : String)
deriving Inhabited

/-- A text that names a file is no longer than this. -/
def longestName : Nat := 260

/-- The failure that a refusal becomes where it is let through. -/
def Refusal.failure (r : Refusal) : Failure :=
  .plain (match r.reason with
    | .missing => .missingFile
    | .notDirectory => .notDirectory
    | .isDirectory => .isDirectory
    | .badName => .value
    | .barred .denied => .denied
    | .longName | .barred (.other ..) => .system) r.message

/-- The cause that a refusal is behind a fault. -/
def Refusal.cause (r : Refusal) : Cause :=
  match r.reason with
  | .missing => .missingFile
  | .notDirectory => .notDirectory
  | .isDirectory => .isDirectory
  | .badName => .value
  | .barred .denied => .denied
  | .longName | .barred (.other ..) => .system

/-- What is left of a stream, as text. -/
def Stream.readRest (s : Stream) : Except Failure Charset.Reading :=
  match s.content with
  | .bytes content => .ok (Charset.readText (content.drop s.read))
  | .text content => .ok ⟨content.drop s.read, []⟩
  | .other typeName =>
    .error (.plain .type
      s!"Stream read() returned unexpected type {typeName}. Expected bytes or str.")

/-- The text of a file. -/
def readFile (files : Store) (p : Path) : Except Failure Charset.Reading :=
  match files.find p with
  | .error r => .error r.failure
  | .ok none => .error (.fault (.fileMissing p.text none none))
  | .ok (some _) =>
    match files.read p with
    | .ok content => .ok (Charset.readText content)
    | .error r =>
      .error (.fault (.file ("Could not read file: " ++ r.message) (some p.text) (some r.cause)))

/-- The text of a source. -/
def Source.load (files : Store) : Source → Except Failure Charset.Reading
  | text s =>
    let p := Path.ofString s
    if s.length ≤ longestName ∧ ¬ s.toList.contains '\n' ∧ files.isFile p then readFile files p
    else .ok ⟨s.toList, []⟩
  | path p => readFile files p
  | bytes content => .ok (Charset.readText content)
  | stream s => { s with read := if s.seekable then 0 else s.read }.readRest
  | other typeName =>
    .error (.fault (.validation s!"Unsupported input type: {typeName}" (some "input_data") none))

end Unmark.Files
