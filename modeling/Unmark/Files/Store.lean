import Unmark.Charset.Utf8
import Unmark.Files.Path
import Unmark.Text.Quoted

/-
Module: Unmark.Files.Store
Layer: Files
Purpose: Files as a value. A store answers what a path names and gives a new store for a file that is
  written; what it cannot do it refuses with the reasons that an operating system gives. Files are known
  by the parts of the way to them: from the current directory, or from the root. What is there may be
  barred: a file from being read or written, a directory from being searched or written into.
Main exports: Store, Access, Refusal, Store.read, Store.write, Store.append
-/

namespace Unmark.Files

/-- Why the operating system bars somebody from a file. -/
inductive Barrier where
  | denied
  /-- Another reason, by its number and wording. -/
  | other (number : Nat) (wording : String)
deriving DecidableEq, Repr, Inhabited

/-- Why an operation on a file is refused. -/
inductive Reason where
  | missing
  | notDirectory
  | isDirectory
  | longName
  /-- A name with a null character, which no file has. -/
  | badName
  | barred (b : Barrier)
deriving DecidableEq, Repr, Inhabited

/-- What something is barred from, and why: a file from being read or written, a directory from having new files
    written into it, or from having names looked up in it. -/
structure Access where
  reading : Option Barrier := none
  writing : Option Barrier := none
  searching : Option Barrier := none
deriving DecidableEq, Repr, Inhabited

/-- What a name in a store stands for. -/
inductive Entry where
  | directory (access : Access)
  | file (content : List UInt8) (access : Access)
deriving DecidableEq, Repr, Inhabited

namespace Entry

/-- A directory that is barred from nothing. -/
def openDirectory : Entry := directory {}

/-- A file that is barred from nothing. -/
def openFile (content : List UInt8) : Entry := file content {}

/-- What an entry is barred from. -/
def access : Entry → Access
  | directory a => a
  | file _ a => a

/-- An entry that is a directory. -/
def isDirectory : Entry → Bool
  | directory _ => true
  | file .. => false

end Entry

/-- A refused operation, with the path as messages name it. -/
structure Refusal where
  reason : Reason
  path : String
deriving DecidableEq, Repr, Inhabited

/-- The number and wording of a barrier. -/
def Barrier.text : Barrier → String
  | denied => "[Errno 13] Permission denied"
  | other number wording => s!"[Errno {number}] {wording}"

/-- The number and wording of a reason. -/
def Reason.text : Reason → String
  | missing => "[Errno 2] No such file or directory"
  | notDirectory => "[Errno 20] Not a directory"
  | isDirectory => "[Errno 21] Is a directory"
  | longName => "[Errno 36] File name too long"
  | badName => "embedded null byte"
  | barred b => b.text

/-- The wording of a refusal. A name with a null character is not shown. -/
def Refusal.message (r : Refusal) : String :=
  if r.reason = .badName then r.reason.text else r.reason.text ++ ": " ++ Text.quoted r.path

/-- Numbers of reasons for which something that is looked up counts as missing. -/
def absenceNumbers : List Nat := [2, 9, 20, 40]

/-- Whether something that is looked up and refused for a reason counts as missing. -/
def Reason.meansAbsence : Reason → Bool
  | missing | notDirectory | badName => true
  | barred (.other number _) => absenceNumbers.contains number
  | isDirectory | longName | barred .denied => false

/-- Files and directories, by the parts of the way to them. -/
abbrev Store := List (List String × Entry)

namespace Store

/-- The part that stands for the root in the parts of an absolute path. -/
def rootPart : String := "/"

/-- Whether parts name the current directory, one above it, or the root. -/
def isBase (parts : List String) : Bool := parts == [rootPart] || parts.all (· == "..")

/-- The entry with given parts. The current directory, those above it and the root are always there; an entry for
    one of them tells what it is barred from. -/
def entry? (s : Store) (parts : List String) : Option Entry :=
  if isBase parts then some (.directory ((s.lookup parts).elim {} Entry.access)) else s.lookup parts

/-- What a directory is barred from, by its parts. -/
def directoryAccess (s : Store) (parts : List String) : Access :=
  match s.entry? parts with
  | some (.directory access) => access
  | _ => {}

/-- The directory above one, by its parts with the last one first. There is none above the root. -/
def above : List String → List String
  | [] => [".."]
  | p :: here =>
    if p = ".." then ".." :: p :: here else if p = rootPart then [p] else here

/-- The parts that a path leads to, steps up taken. `here` are the parts so far, last one first. -/
def follow (s : Store) (here : List String) : List String → Except Reason (List String)
  | [] => .ok here.reverse
  | p :: ps =>
    match (s.directoryAccess here.reverse).searching with
    | some b => .error (.barred b)
    | none =>
      if 255 < (Charset.encodeUtf8 p.toList).length then .error .longName
      else if p = ".." then follow s (above here) ps
      else
        let parts := (p :: here).reverse
        if ps.isEmpty then .ok parts
        else
          match s.entry? parts with
          | some (.directory _) => follow s (p :: here) ps
          | some (.file ..) => .error .notDirectory
          | none => .error .missing

/-- The text of a path takes no more bytes than this. -/
def longestPath : Nat := 4095

/-- The parts that a path leads to. -/
def locate (s : Store) (p : Path) : Except Reason (List String) :=
  if p.isUnnameable then .error .badName
  else if longestPath < (Charset.encodeUtf8 p.text.toList).length then .error .longName
  else follow s (if p.root = "" then [] else [rootPart]) p.parts

/-- What a path names, and nothing if it names nothing. It is refused to look up a name that is too long, or one in a
    directory that is barred. -/
def find (s : Store) (p : Path) : Except Refusal (Option Entry) :=
  match s.locate p with
  | .ok parts => .ok (s.entry? parts)
  | .error r => if r.meansAbsence then .ok none else .error ⟨r, p.text⟩

/-- Whether a path names a file. -/
def isFile (s : Store) (p : Path) : Bool :=
  match s.find p with
  | .ok (some (.file ..)) => true
  | _ => false

/-- The content of the file that a path names. -/
def read (s : Store) (p : Path) : Except Refusal (List UInt8) :=
  match s.locate p with
  | .error r => .error ⟨r, p.text⟩
  | .ok parts =>
    match s.entry? parts with
    | some (.file content access) =>
      match access.reading with
      | some b => .error ⟨.barred b, p.text⟩
      | none => .ok content
    | some (.directory access) => .error ⟨access.reading.elim .isDirectory .barred, p.text⟩
    | none => .error ⟨.missing, p.text⟩

/-- What keeps a file with some parts from being written. A new file is written into its directory. -/
def barrier? (s : Store) (parts : List String) : Option Reason :=
  match s.entry? parts with
  | some (.directory _) => some .isDirectory
  | some (.file _ access) => access.writing.map .barred
  | none => (s.directoryAccess parts.dropLast).writing.map .barred

/-- The parts of a file that can be written under a path. -/
def target (s : Store) (p : Path) : Except Refusal (List String) :=
  match s.locate p with
  | .error r => .error ⟨r, p.text⟩
  | .ok parts =>
    match s.barrier? parts with
    | some barrier => .error ⟨barrier, p.text⟩
    | none => .ok parts

/-- A store in which a file has a content. -/
def put (s : Store) (parts : List String) (content : List UInt8) : Store :=
  match s.lookup parts with
  | some e => s.map fun (q, f) => if q = parts then (q, .file content e.access) else (q, f)
  | none => s ++ [(parts, .openFile content)]

/-- A store in which the file that a path names has a content, whatever it had before. -/
def write (s : Store) (p : Path) (content : List UInt8) : Except Refusal Store :=
  (s.target p).map fun parts => s.put parts content

/-- A store in which the file that a path names has more content. -/
def append (s : Store) (p : Path) (content : List UInt8) : Except Refusal Store :=
  (s.target p).map fun parts =>
    match s.entry? parts with
    | some (.file before _) => s.put parts (before ++ content)
    | _ => s.put parts content

/-- A store with the directories above some parts. -/
def addParents (s : Store) (parts : List String) : Store :=
  (List.range parts.length).foldl
    (fun s n => if (s.entry? (parts.take n)).isSome then s else s ++ [(parts.take n, .openDirectory)]) s

/-- The store of some files and directories with their names; what has no content is a directory. -/
def ofList (entries : List (String × Option String)) : Store :=
  entries.foldl (fun s (name, content) =>
    let parts := (Path.ofString name).parts
    let s := s.addParents parts
    match content with
    | some text => s.put parts (Charset.encodeUtf8 text.toList)
    | none => if (s.entry? parts).isSome then s else s ++ [(parts, .openDirectory)]) []

/-- The text of a path with given parts. -/
def partsText : List String → String
  | [] => "."
  | p :: ps =>
    if p = rootPart then rootPart ++ String.intercalate "/" ps else String.intercalate "/" (p :: ps)

/-- Whether parts are of something below the current directory. -/
def isInside (parts : List String) : Bool := parts.head? != some ".." && parts.head? != some rootPart

/-- The files below the current directory, with their names and contents. -/
def files (s : Store) : List (String × List UInt8) :=
  s.filterMap fun (parts, e) =>
    match e with
    | .file content _ => if isInside parts then some (String.intercalate "/" parts, content) else none
    | .directory _ => none

/-- The files of a store that another one does not have, or not with the same content. -/
def changesFrom (before after : Store) : List (String × List UInt8) :=
  after.files.filter fun f => !before.files.contains f

end Store

end Unmark.Files
