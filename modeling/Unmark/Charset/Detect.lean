import Unmark.Charset.Codec
import Unmark.Log.Record

/-
Module: Unmark.Charset.Detect
Layer: Charset
Purpose: Reading bytes whose encoding is not known. A mark at their start tells the encoding, and so does
  text that is ASCII or UTF-8; all else is left open. Bytes are read in the encoding that was detected,
  or else in the first of some fallback encodings in which they are text. If there is none they are
  read as UTF-8 with replacement characters. Reading works with any detector; the one that is used here
  only knows marks, ASCII and UTF-8.
Main exports: Verdict, Detector, detect, detectedBy, detected, Reading, readBytes, readTextBy, readText
-/

namespace Unmark.Charset

/-- The encoding that bytes seem to be in, and how sure this is, in hundredths. -/
structure Verdict where
  encoding : String
  hundredths : Nat
deriving DecidableEq, Repr, Inhabited

/-- What finds out the encoding of bytes. -/
abbrev Detector := List UInt8 → Option Verdict

/-- Whether units are characters, except for the last one, which may be unfinished. -/
def isUtf8 : List Unit8 → Bool
  | [] => true
  | [.bad _ .unfinished] => true
  | .char .. :: us => isUtf8 us
  | .bad .. :: _ => false

/-- What bytes seem to be. Bytes that hold a zero and no mark seem to be nothing, and so do bytes without
    a whole character beyond ASCII. -/
def detect : Detector := fun bs =>
  match bs with
  | [] => none
  | 0xEF :: 0xBB :: 0xBF :: _ => some ⟨"UTF-8-SIG", 100⟩
  | 0xFF :: 0xFE :: 0 :: 0 :: _ | 0 :: 0 :: 0xFE :: 0xFF :: _ => some ⟨"UTF-32", 100⟩
  | 0xFF :: 0xFE :: _ | 0xFE :: 0xFF :: _ => some ⟨"UTF-16", 100⟩
  | _ =>
    if bs.contains 0 then none
    else if bs.all fun b => b.toNat < 128 then some ⟨"ascii", 100⟩
    else
      let us := units bs
      let wide := us.any fun
        | .char _ width => 1 < width
        | .bad .. => false
      if isUtf8 us && wide then some ⟨"utf-8", 99⟩ else none

/-- Two decimal places of a number of hundredths. -/
def hundredthsText (n : Nat) : String :=
  let digits := Nat.toDigits 10 (n % 100)
  let places := if digits.length < 2 then '0' :: digits else digits
  s!"{n / 100}." ++ String.ofList places

def debug (text : String) : Log.Record := Log.Source.encoding.record .debug text

/-- The encoding that a detector finds in a sample from the start of some bytes, if it is sure enough, and
    what is noted on the way. An encoding without a name is none. A negative size leaves out that many bytes
    at the end. -/
def detectedBy (detector : Detector) (sampleSize : Int) (threshold : Float) (thresholdText : String)
    (bs : List UInt8) : Option String × List Log.Record :=
  let sample :=
    if 0 ≤ sampleSize then bs.take sampleSize.toNat else bs.take (bs.length - sampleSize.natAbs)
  match (detector sample).filter fun v => v.encoding ≠ "" with
  | none => (none, [debug "chardet: No encoding detected"])
  | some v =>
    let sure := hundredthsText v.hundredths
    let found := debug s!"chardet detected encoding: {v.encoding} (confidence: {sure})"
    if Float.ofScientific v.hundredths true 2 < threshold then
      (none, [found, debug s!"chardet confidence {sure} below threshold {thresholdText}"])
    else (some v.encoding, [found])

/-- The encoding that some bytes show. -/
def detected (sampleSize : Int) (threshold : Float) (thresholdText : String) (bs : List UInt8) :
    Option String × List Log.Record :=
  detectedBy detect sampleSize threshold thresholdText bs

/-- The encoding that a detector finds with the usual size of the sample and the usual threshold. -/
def usualDetection (detector : Detector) (bs : List UInt8) : Option String × List Log.Record :=
  detectedBy detector 8192 0.7 "0.7" bs

/-- A text that was read, and what was noted on the way. -/
structure Reading where
  text : List Char
  log : List Log.Record
deriving Inhabited

/-- The text of bytes in an encoding given by name, or the words that say why there is none. -/
def decodeNamed (name : String) (bs : List UInt8) : Except String (List Char) :=
  match Codec.ofName? name with
  | none => .error ("unknown encoding: " ++ name)
  | some codec => (codec.decode bs).mapError Refusal.message

/-- The text of bytes in the first of some encodings in which they are text. -/
def readFirst (bs : List UInt8) : List String → Reading
  | [] =>
    ⟨replaceBad bs, [Log.Source.encoding.record .warning
      "All encoding attempts failed, using utf-8 with error replacement"]⟩
  | name :: names =>
    match decodeNamed name bs with
    | .ok text => ⟨text, []⟩
    | .error e =>
      let r := readFirst bs names
      { r with log := debug s!"Failed to decode with {name}: {e}" :: r.log }

/-- The text of bytes for which an encoding was detected or not. -/
def readBytes (verdict : Option String) (fallbacks : List String) (bs : List UInt8) : Reading :=
  match verdict with
  | none => readFirst bs fallbacks
  | some name =>
    match decodeNamed name bs with
    | .ok text => ⟨text, []⟩
    | .error e =>
      let r := readFirst bs fallbacks
      { r with log := debug s!"Failed to decode with chardet-detected encoding {name}: {e}" :: r.log }

/-- Encodings to try when none is detected. -/
def usualFallbacks : List String := ["utf-8", "utf-8-sig", "latin-1"]

/-- The text of bytes, after a detector has looked for their encoding if that is wanted. -/
def readTextBy (detector : Detector) (bs : List UInt8) (fallbacks : List String) (useDetector : Bool) :
    Reading :=
  if useDetector && !bs.isEmpty then
    let (verdict, log) := usualDetection detector bs
    let r := readBytes verdict fallbacks bs
    { r with log := log ++ r.log }
  else readBytes none fallbacks bs

/-- The text of bytes, after their encoding was detected if that is wanted. -/
def readText (bs : List UInt8) (fallbacks : List String := usualFallbacks) (useDetector : Bool := true) :
    Reading :=
  readTextBy detect bs fallbacks useDetector

end Unmark.Charset
