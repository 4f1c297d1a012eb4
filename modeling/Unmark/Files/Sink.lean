import Unmark.Files.Source

/-
Module: Unmark.Files.Sink
Layer: Files
Purpose: Where a text goes: into a file, or into a stream of bytes or of text. Streams of bytes get the text
  in UTF-8. A stream of no known kind is one of bytes if its mode says so.
Main exports: Sink, Sink.write, Sink.writeOutput
-/

namespace Unmark.Files

/-- Where a text goes. -/
inductive Sink where
  /-- A file, with its name as messages give it. -/
  | file (name : String)
  | byteStream
  | textStream
  /-- A stream of no known kind, with its mode if that is a text. -/
  | stream (mode : Option String)
  | other (typeName : String)
deriving Inhabited

/-- What a stream gets. -/
inductive Chunk where
  | bytes (content : List UInt8)
  | text (s : String)
deriving DecidableEq, Inhabited

/-- What has been written: the files afterwards, and what a stream got. -/
structure Written where
  files : Store
  chunk : Option Chunk := none
deriving Inhabited

/-- Why a text was not written. -/
inductive SinkError where
  | refused (r : Refusal)
  | unsupported (typeName : String)
deriving DecidableEq, Repr, Inhabited

namespace Sink

/-- Whether a sink takes bytes. -/
def takesBytes : Sink → Bool
  | byteStream => true
  | stream (some mode) => mode.toList.contains 'b'
  | _ => false

/-- A text written to a sink. -/
def write (files : Store) (s : String) : Sink → Except SinkError Written
  | file name =>
    match files.write (Path.ofString name) (Charset.encodeUtf8 s.toList) with
    | .ok files => .ok { files }
    | .error r => .error (.refused r)
  | other typeName => .error (.unsupported typeName)
  | sink =>
    .ok { files, chunk := some (if sink.takesBytes then .bytes (Charset.encodeUtf8 s.toList) else .text s) }

end Sink

/-- The failure of a text that was written directly. -/
def SinkError.failure : SinkError → Failure
  | refused r => r.failure
  | unsupported typeName => .plain .type s!"Unsupported output type: <class '{typeName}'>"

/-- The failure of a text that was written as output: a refused file is named, unless its name is none that a file
    can have. -/
def SinkError.outputFailure (sink : Sink) : SinkError → Failure
  | refused r =>
    let name := match sink with
      | .file name => name
      | _ => r.path
    if r.reason = .badName then r.failure else .fault (.outputWrite name none (some r.cause))
  | e => e.failure

/-- A text written to a sink as output. -/
def Sink.writeOutput (files : Store) (s : String) (sink : Sink) : Except Failure Written :=
  (sink.write files s).mapError (SinkError.outputFailure sink)

end Unmark.Files
