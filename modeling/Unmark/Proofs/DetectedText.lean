import Unmark.Charset.Detect
import Unmark.Proofs.Utf8Text

/-
Module: Unmark.Proofs.DetectedText
Layer: Proofs
Purpose: What reading bytes of an unknown encoding gives, whatever the detector says about them. Encodings are
  tried in an order, the detected one before the fallbacks, and the text is that of the first one in which
  the bytes are text; the replacement of bad bytes is reached only if there is none. Latin-1 takes all bytes,
  and a text in UTF-8 comes back also when the detector has taken its start for ASCII.
Main exports: ReadInFirst, readFirst_spec, tried, readTextBy_eq, readTextBy_recovers
-/

namespace Unmark.Charset

/-- Bytes are read in the first of some encodings in which they are text; those named before it refuse them,
    or are not known. -/
inductive ReadInFirst (bs : List UInt8) : List String → List Char → Prop where
  | here {name : String} {names : List String} {text : List Char} (read : decodeNamed name bs = .ok text) :
      ReadInFirst bs (name :: names) text
  | later {name : String} {names : List String} {text : List Char} {e : String}
      (refused : decodeNamed name bs = .error e) (rest : ReadInFirst bs names text) :
      ReadInFirst bs (name :: names) text

/-- Records that say no more than which encodings were tried. -/
def Quiet (log : List Log.Record) : Prop := ∀ r ∈ log, r.severity = .debug

theorem Quiet.cons {text : String} {log : List Log.Record} (quiet : Quiet log) : Quiet (debug text :: log) := by
  intro r mem
  rcases List.mem_cons.1 mem with rfl | mem
  · rfl
  · exact quiet r mem

section Order

variable {bs : List UInt8}

theorem decodeNamed_of_codec {name : String} {codec : Codec} {text : List Char}
    (named : Codec.ofName? name = some codec) (read : codec.decode bs = .ok text) :
    decodeNamed name bs = .ok text := by
  rw [decodeNamed, named]
  dsimp only
  rw [read]
  rfl

theorem decode_of_decodeNamed {name : String} {codec : Codec} {text : List Char}
    (named : Codec.ofName? name = some codec) (read : decodeNamed name bs = .ok text) :
    codec.decode bs = .ok text := by
  rw [decodeNamed, named] at read
  dsimp only at read
  cases decoded : codec.decode bs with
  | error r =>
      rw [decoded] at read
      cases read
  | ok text' =>
      rw [decoded] at read
      cases read
      rfl

/-! What trying one more encoding first does. -/

theorem readFirst_of_ok {name : String} {text : List Char} (read : decodeNamed name bs = .ok text)
    (names : List String) : readFirst bs (name :: names) = ⟨text, []⟩ := by
  rw [readFirst, read]

theorem readFirst_of_error {name e : String} (refused : decodeNamed name bs = .error e)
    (names : List String) :
    ∃ note, readFirst bs (name :: names) =
      ⟨(readFirst bs names).text, debug note :: (readFirst bs names).log⟩ := by
  rw [readFirst, refused]
  exact ⟨_, rfl⟩

theorem readBytes_of_ok {name : String} {text : List Char} (read : decodeNamed name bs = .ok text)
    (fallbacks : List String) : readBytes (some name) fallbacks bs = ⟨text, []⟩ := by
  rw [readBytes, read]

theorem readBytes_of_error {name e : String} (refused : decodeNamed name bs = .error e)
    (fallbacks : List String) :
    ∃ note, readBytes (some name) fallbacks bs =
      ⟨(readFirst bs fallbacks).text, debug note :: (readFirst bs fallbacks).log⟩ := by
  rw [readBytes, refused]
  exact ⟨_, rfl⟩

/-- Where the bytes are text in one of the encodings, the first such one is used and no more than a note is
    left for each of those before it; where they are text in none, bad bytes are replaced, with a warning. -/
theorem readFirst_spec (names : List String) :
    (ReadInFirst bs names (readFirst bs names).text ∧ Quiet (readFirst bs names).log) ∨
      (∀ name ∈ names, ∃ e, decodeNamed name bs = .error e) ∧ (readFirst bs names).text = replaceBad bs ∧
        ∃ r ∈ (readFirst bs names).log, r.severity = .warning := by
  induction names with
  | nil => exact .inr ⟨fun name mem => absurd mem List.not_mem_nil, rfl, _, List.mem_singleton_self _, rfl⟩
  | cons name names ih =>
      cases read : decodeNamed name bs with
      | ok text =>
          rw [readFirst_of_ok read]
          exact .inl ⟨.here read, fun r mem => absurd mem List.not_mem_nil⟩
      | error e =>
          obtain ⟨note, tries⟩ := readFirst_of_error read names
          rw [tries]
          rcases ih with ⟨first, quiet⟩ | ⟨none, replaced, r, mem, warns⟩
          · exact .inl ⟨.later read first, quiet.cons⟩
          · refine .inr ⟨?_, replaced, r, List.mem_cons_of_mem _ mem, warns⟩
            rw [List.forall_mem_cons]
            exact ⟨⟨e, read⟩, none⟩

/-- An encoding that takes the bytes is enough. -/
theorem readFirst_of_mem {names : List String} {name : String} {text : List Char} (mem : name ∈ names)
    (read : decodeNamed name bs = .ok text) :
    ReadInFirst bs names (readFirst bs names).text ∧ Quiet (readFirst bs names).log := by
  rcases readFirst_spec names with first | ⟨none, -⟩
  · exact first
  · obtain ⟨e, refused⟩ := none name mem
    cases read.symm.trans refused

/-- A detected encoding is one that is tried before the fallbacks. -/
theorem readBytes_eq (bs : List UInt8) (verdict : Option String) (fallbacks : List String) :
    (readBytes verdict fallbacks bs).text = (readFirst bs (verdict.toList ++ fallbacks)).text ∧
      (Quiet (readFirst bs (verdict.toList ++ fallbacks)).log → Quiet (readBytes verdict fallbacks bs).log) := by
  cases verdict with
  | none => exact ⟨rfl, id⟩
  | some name =>
      rw [Option.toList_some, List.singleton_append]
      cases read : decodeNamed name bs with
      | ok text =>
          rw [readBytes_of_ok read, readFirst_of_ok read]
          exact ⟨rfl, id⟩
      | error e =>
          obtain ⟨note, tries⟩ := readFirst_of_error read fallbacks
          obtain ⟨note', tries'⟩ := readBytes_of_error read fallbacks
          rw [tries, tries']
          exact ⟨rfl, fun quiet => Quiet.cons fun r mem => quiet r (List.mem_cons_of_mem _ mem)⟩

end Order

/-! ### Detectors -/

variable (detector : Detector)

/-- What is detected is what the detector says about the start of the bytes, if anything. -/
theorem exists_of_usualDetection {bs : List UInt8} {name : String}
    (detected : (usualDetection detector bs).1 = some name) :
    ∃ v, detector (bs.take 8192) = some v ∧ v.encoding = name := by
  unfold usualDetection detectedBy at detected
  dsimp only at detected
  rw [if_pos (by decide)] at detected
  split at detected
  · cases detected
  · rename_i v said
    split at detected
    · cases detected
    · exact ⟨v, (Option.filter_eq_some_iff.1 said).1, Option.some_inj.1 detected⟩

theorem quiet_usualDetection (bs : List UInt8) : Quiet (usualDetection detector bs).2 := by
  have silent : Quiet [] := fun r mem => absurd mem List.not_mem_nil
  unfold usualDetection detectedBy
  dsimp only
  split
  · exact silent.cons
  · split
    · exact silent.cons.cons
    · exact silent.cons

/-- The encodings that are tried for bytes, in their order. -/
def tried (bs : List UInt8) (fallbacks : List String) (useDetector : Bool) : List String :=
  (if useDetector && !bs.isEmpty then (usualDetection detector bs).1 else none).toList ++ fallbacks

theorem readTextBy_eq (bs : List UInt8) (fallbacks : List String) (useDetector : Bool) :
    (readTextBy detector bs fallbacks useDetector).text =
        (readFirst bs (tried detector bs fallbacks useDetector)).text ∧
      (Quiet (readFirst bs (tried detector bs fallbacks useDetector)).log →
        Quiet (readTextBy detector bs fallbacks useDetector).log) := by
  unfold readTextBy tried
  split
  · obtain ⟨text, quiet⟩ := readBytes_eq bs (usualDetection detector bs).1 fallbacks
    refine ⟨text, fun silent r mem => ?_⟩
    rcases List.mem_append.1 mem with mem | mem
    · exact quiet_usualDetection detector bs r mem
    · exact quiet silent r mem
  · exact readBytes_eq bs none fallbacks

/-! ### Texts in UTF-8 -/

theorem text_of_utf8 {cs text : List Char} {name : String}
    (named : Codec.ofName? name = some .ascii ∨ Codec.ofName? name = some .utf8)
    (read : decodeNamed name (encodeUtf8 cs) = .ok text) : text = cs := by
  have decoded : decodeUtf8 (encodeUtf8 cs) = .ok text := by
    rcases named with named | named
    · exact decodeUtf8_of_ascii (decode_of_decodeNamed named read)
    · exact decode_of_decodeNamed named read
  rw [decodeUtf8_encodeUtf8] at decoded
  exact (Except.ok.inj decoded).symm

/-- A text in UTF-8 is found again when nothing, ASCII or UTF-8 was detected: ASCII refuses the bytes if they
    are not ASCII, and UTF-8 comes next. -/
theorem text_of_readInFirst {cs text : List Char} {verdict : Option String}
    (plain : ∀ name ∈ verdict, Codec.ofName? name = some .ascii ∨ Codec.ofName? name = some .utf8)
    (read : ReadInFirst (encodeUtf8 cs) (verdict.toList ++ usualFallbacks) text) : text = cs := by
  have utf8 : Codec.ofName? "utf-8" = some .utf8 := by decide +kernel
  have accepted : decodeNamed "utf-8" (encodeUtf8 cs) = .ok cs :=
    decodeNamed_of_codec utf8 (decodeUtf8_encodeUtf8 cs)
  have fallen : ∀ {text}, ReadInFirst (encodeUtf8 cs) usualFallbacks text → text = cs := by
    intro text read
    cases read with
    | here read => exact text_of_utf8 (.inr utf8) read
    | later refused _ => cases accepted.symm.trans refused
  cases verdict with
  | none => exact fallen read
  | some name =>
      cases read with
      | here read => exact text_of_utf8 (plain name rfl) read
      | later _ rest => exact fallen rest

/-- Whatever the detector is: a text comes back from its bytes in UTF-8 when it detects nothing, ASCII or UTF-8
    there, or is not asked; and bytes of any kind are read in the first encoding in which they are text, without
    a warning, if Latin-1 is among the fallbacks. -/
theorem readTextBy_recovers (useDetector : Bool) :
    (∀ cs : List Char,
      (∀ name ∈ (usualDetection detector (encodeUtf8 cs)).1,
        Codec.ofName? name = some .ascii ∨ Codec.ofName? name = some .utf8) →
      (readTextBy detector (encodeUtf8 cs) usualFallbacks useDetector).text = cs) ∧
    ∀ (bs : List UInt8) (fallbacks : List String),
      (∃ name ∈ fallbacks, Codec.ofName? name = some .latin1) →
      ReadInFirst bs (tried detector bs fallbacks useDetector)
        (readTextBy detector bs fallbacks useDetector).text ∧
      Quiet (readTextBy detector bs fallbacks useDetector).log := by
  have whole : ∀ (bs : List UInt8) (fallbacks : List String),
      (∃ name ∈ fallbacks, Codec.ofName? name = some .latin1) →
      ReadInFirst bs (tried detector bs fallbacks useDetector)
        (readTextBy detector bs fallbacks useDetector).text ∧
      Quiet (readTextBy detector bs fallbacks useDetector).log := by
    rintro bs fallbacks ⟨name, mem, named⟩
    have listed : name ∈ tried detector bs fallbacks useDetector := List.mem_append_right _ mem
    have taken : decodeNamed name bs = .ok (bs.map fun b => Char.ofNat b.toNat) :=
      decodeNamed_of_codec named rfl
    obtain ⟨first, quiet⟩ := readFirst_of_mem listed taken
    obtain ⟨text, silent⟩ := readTextBy_eq detector bs fallbacks useDetector
    exact ⟨text ▸ first, silent quiet⟩
  refine ⟨fun cs plain => ?_, whole⟩
  have latin : ∃ name ∈ usualFallbacks, Codec.ofName? name = some .latin1 := ⟨"latin-1", by decide +kernel⟩
  refine text_of_readInFirst ?_ (whole (encodeUtf8 cs) usualFallbacks latin).1
  intro name detected
  split at detected
  · exact plain name detected
  · cases detected

/-! A text whose start, as far as the detector looks at it, is ASCII. -/

theorem encodeUtf8_replicate (n : Nat) (cs : List Char) :
    encodeUtf8 (List.replicate n 'a' ++ cs) = List.replicate n 97 ++ encodeUtf8 cs := by
  have letter : encodeChar 'a' = [97] := by decide
  rw [encodeUtf8, List.flatMap_append, List.flatMap_replicate, letter, List.flatten_replicate_singleton]
  rfl

theorem detect_replicate (n : Nat) : detect (List.replicate (n + 4) 97) = some ⟨"ascii", 100⟩ := by
  have ascii : (List.replicate (n + 4) (97 : UInt8)).all (fun b => b.toNat < 128) = true := by
    rw [List.all_replicate]
    rfl
  rw [List.replicate_succ, List.replicate_succ, List.replicate_succ, List.replicate_succ] at ascii ⊢
  simp [detect, ascii]

/-- An accent that comes too late for the detector is read all the same; so is a byte that is no text in the
    encodings before Latin-1. -/
theorem readTextBy_recovers_late_accent :
    let cs := List.replicate 8192 'a' ++ ['é']
    detect ((encodeUtf8 cs).take 8192) = some ⟨"ascii", 100⟩ ∧
      (readTextBy detect (encodeUtf8 cs) usualFallbacks true).text = cs ∧
      ReadInFirst [0x61, 0xFF] (tried detect [0x61, 0xFF] ["none", "ascii", "latin-1"] true)
        (readTextBy detect [0x61, 0xFF] ["none", "ascii", "latin-1"] true).text ∧
      Quiet (readTextBy detect [0x61, 0xFF] ["none", "ascii", "latin-1"] true).log := by
  intro cs
  have start : detect ((encodeUtf8 cs).take 8192) = some ⟨"ascii", 100⟩ := by
    rw [encodeUtf8_replicate, List.take_left' List.length_replicate]
    exact detect_replicate 8188
  obtain ⟨found, quiet⟩ := readTextBy_recovers detect true
  refine ⟨start, found cs ?_, quiet _ _ ⟨"latin-1", by decide +kernel⟩⟩
  intro name detected
  obtain ⟨v, said, rfl⟩ := exists_of_usualDetection detect detected
  cases start.symm.trans said
  exact .inl (by decide +kernel)

end Unmark.Charset
