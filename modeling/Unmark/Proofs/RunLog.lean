import Unmark.CommandLine.Run
import Unmark.Proofs.FrontMatterFaults

/-
Module: Unmark.Proofs.RunLog
Layer: Proofs
Purpose: What the steps of a run write on the console. All records that they note are made by parts of the
  program; the handlers that configuring has put there turn each into a line of one of two forms, or drop it;
  one that cannot be encoded for the log file is complained about. So whatever the steps come to, the console
  holds lines of records, such complaints, and nothing else. Converting does nothing but note.
Main exports: Log.Record.IsOwn, Log.LogText, CommandLine.Running.Preserves, CommandLine.Notes,
  CommandLine.notes_convert, CommandLine.preserves_steps
-/

namespace Unmark

namespace Log

/-- A record that a part of the program has made. -/
def Record.IsOwn (r : Record) : Prop := ∃ source : Source, r.logger = source.logger

theorem Source.isOwn (source : Source) (severity : Severity) (text : String) (remark : Option Remark) :
    (source.record severity text remark).IsOwn := ⟨source, rfl⟩

/-- Reading the text of a record twice does not change whose it is. -/
theorem Record.IsOwn.ofTwice {r : Record} (own : r.IsOwn) (other : String) : (r.ofTwice other).IsOwn := by
  unfold Record.ofTwice
  dsimp only
  split <;> exact own

theorem Record.IsOwn.isOfPackage {r : Record} (own : r.IsOwn) : r.isOfPackage = true := by
  obtain ⟨source, made⟩ := own
  unfold Record.isOfPackage
  rw [made]
  cases source <;> decide +kernel

namespace Setup

variable {around : Surroundings} {r : Record} {o : Outlets}

end Setup

end Log

/-! ### Records -/

open Log

namespace Charset

theorem isOwn_debug (text : String) : (debug text).IsOwn := Source.isOwn ..

theorem isOwn_of_mem_readFirst {bs : List UInt8} (names : List String) :
    ∀ r ∈ (readFirst bs names).log, r.IsOwn := by
  induction names with
  | nil =>
      intro r mem
      rw [List.mem_singleton.1 mem]
      exact Source.isOwn ..
  | cons name names ih =>
      intro r mem
      unfold readFirst at mem
      split at mem
      · cases mem
      · rcases List.mem_cons.1 mem with rfl | mem
        · exact isOwn_debug _
        · exact ih r mem

theorem isOwn_of_mem_readBytes {verdict : Option String} {fallbacks : List String} {bs : List UInt8} :
    ∀ r ∈ (readBytes verdict fallbacks bs).log, r.IsOwn := by
  intro r mem
  unfold readBytes at mem
  split at mem
  · exact isOwn_of_mem_readFirst _ r mem
  · split at mem
    · cases mem
    · rcases List.mem_cons.1 mem with rfl | mem
      · exact isOwn_debug _
      · exact isOwn_of_mem_readFirst _ r mem

theorem isOwn_of_mem_usualDetection {detector : Detector} {bs : List UInt8} :
    ∀ r ∈ (usualDetection detector bs).2, r.IsOwn := by
  intro r mem
  unfold usualDetection detectedBy at mem
  dsimp only at mem
  split at mem
  · rw [List.mem_singleton.1 mem]
    exact isOwn_debug _
  · split at mem
    · rcases List.mem_cons.1 mem with rfl | mem
      · exact isOwn_debug _
      · rw [List.mem_singleton.1 mem]
        exact isOwn_debug _
    · rw [List.mem_singleton.1 mem]
      exact isOwn_debug _

theorem isOwn_of_mem_readText {bs : List UInt8} : ∀ r ∈ (readText bs).log, r.IsOwn := by
  intro r mem
  unfold readText readTextBy at mem
  split at mem
  · rcases List.mem_append.1 mem with mem | mem
    · exact isOwn_of_mem_usualDetection r mem
    · exact isOwn_of_mem_readBytes r mem
  · exact isOwn_of_mem_readBytes r mem

end Charset

namespace Markdown

theorem isOwn_of_mem_phraseDrops : ∀ (ts : List Token), ∀ r ∈ phraseDrops ts, r.IsOwn
  | [], r, mem => by
      unfold phraseDrops at mem
      cases mem
  | .mk t _ _ _ _ cs :: ts, r, mem => by
      unfold phraseDrops at mem
      rcases List.mem_append.1 mem with mem | mem
      · have below := isOwn_of_mem_phraseDrops cs r
        cases t
        case strong | emphasis | strikethrough | link => exact below mem
        case text | softBreak | codeSpan | image | lineBreak | inlineHtml | footnoteRef => cases mem
        all_goals
          rw [List.mem_singleton.1 mem]
          exact Source.isOwn ..
      · exact isOwn_of_mem_phraseDrops ts r mem

theorem isOwn_of_mem_cellDrops (ts : List Token) : ∀ r ∈ cellDrops ts, r.IsOwn := by
  intro r mem
  induction ts using cellDrops.induct with
  | case1 => cases mem
  | case2 _ _ _ _ cs ts ih =>
      rcases List.mem_append.1 mem with mem | mem
      · exact isOwn_of_mem_phraseDrops cs r mem
      · exact ih mem
  | case3 t ts other ih =>
      rw [cellDrops.eq_3 _ _ other] at mem
      exact ih mem

theorem isOwn_of_mem_bodyDrops (ts : List Token) : ∀ r ∈ bodyDrops ts, r.IsOwn := by
  intro r mem
  induction ts using bodyDrops.induct with
  | case1 => cases mem
  | case2 _ _ _ _ cs ts ih =>
      rcases List.mem_append.1 mem with mem | mem
      · exact isOwn_of_mem_cellDrops cs r mem
      · exact ih mem
  | case3 t ts other ih =>
      rw [bodyDrops.eq_3 _ _ other] at mem
      exact ih mem

theorem isOwn_of_mem_rowDrops (ts : List Token) : ∀ r ∈ rowDrops ts, r.IsOwn := by
  intro r mem
  induction ts using rowDrops.induct with
  | case1 => cases mem
  | case2 _ _ _ _ cs ts ih =>
      rcases List.mem_append.1 mem with mem | mem
      · exact isOwn_of_mem_cellDrops cs r mem
      · exact ih mem
  | case3 _ _ _ _ cs ts ih =>
      rcases List.mem_append.1 mem with mem | mem
      · exact isOwn_of_mem_bodyDrops cs r mem
      · exact ih mem
  | case4 t ts other other' ih =>
      rw [rowDrops.eq_4 _ _ other other'] at mem
      exact ih mem

mutual

theorem isOwn_of_mem_blockDrops : ∀ (ts : List Token), ∀ r ∈ blockDrops ts, r.IsOwn
  | [], r, mem => by
      unfold blockDrops at mem
      cases mem
  | .mk t _ _ _ _ cs :: ts, r, mem => by
      unfold blockDrops at mem
      rcases List.mem_append.1 mem with mem | mem
      · have below := isOwn_of_mem_blockDrops cs r
        have notes := isOwn_of_mem_footnoteDrops cs r
        cases t
        case paragraph | blockText | heading => exact isOwn_of_mem_phraseDrops cs r mem
        case blockQuote | list | listItem | taskListItem => exact below mem
        case table => exact isOwn_of_mem_rowDrops cs r mem
        case footnotes => exact notes mem
        case blockCode | thematicBreak | blockHtml | blankLine => cases mem
        all_goals
          rw [List.mem_singleton.1 mem]
          exact Source.isOwn ..
      · exact isOwn_of_mem_blockDrops ts r mem

theorem isOwn_of_mem_footnoteDrops : ∀ (ts : List Token), ∀ r ∈ footnoteDrops ts, r.IsOwn
  | [], r, mem => by
      unfold footnoteDrops at mem
      cases mem
  | .mk t _ _ _ _ cs :: ts, r, mem => by
      have rest := isOwn_of_mem_footnoteDrops ts r
      have notes := isOwn_of_mem_blockDrops cs r
      unfold footnoteDrops at mem
      split at mem
      · cases ‹_ :: _ = []›
      · rename_i same
        cases same
        rcases List.mem_append.1 mem with mem | mem
        · exact notes mem
        · exact rest mem
      · rename_i same
        cases same
        exact rest mem

end

theorem isOwn_of_mem_parse {o : Options} {text : String} {p : Parsed} (parsed : parse o text = .ok p) :
    ∀ r ∈ p.log, r.IsOwn := by
  obtain ⟨e, taken, rfl⟩ := parse_eq_ok_iff.1 parsed
  intro r mem
  rcases List.mem_append.1 mem with mem | mem
  · unfold withoutFrontMatter at taken
    split at taken
    · cases cut : FrontMatter.cut? text.toList with
      | none =>
          unfold FrontMatter.extract at taken
          rw [cut] at taken
          cases taken
          cases mem
      | some parts =>
          obtain ⟨d, log, settles, rfl⟩ := FrontMatter.extract_eq_ok cut taken
          cases settles with
          | loaded _ => cases mem
          | ignored _ =>
              rw [List.mem_singleton.1 mem]
              exact Source.isOwn ..
    · cases taken
      cases mem
  · exact isOwn_of_mem_blockDrops _ r mem

end Markdown

theorem PlainText.isOwn_of_mem_render {o : PlainText.Options} {tree : Node} :
    ∀ r ∈ (PlainText.render o tree).log, r.IsOwn := by
  intro r mem
  obtain ⟨name, -, rfl⟩ := List.mem_map.1 mem
  exact Source.isOwn ..

/-! ### Steps of a run -/

namespace CommandLine

namespace Running

variable {α β : Type}

/-- What steps come to from a session, and the session that they leave. -/
abbrev startedIn (x : Running α) (s : Session) : Except Failure α × Session := x.run.run s

/-- Steps in sequence: the second ones start from the session that the first ones leave, and are not taken
    when these fail. -/
theorem startedIn_bind (x : Running α) (k : α → Running β) (s : Session) :
    (x >>= k).startedIn s =
      match x.startedIn s with
      | (.ok a, s') => (k a).startedIn s'
      | (.error f, s') => (.error f, s') := by
  unfold startedIn
  rw [ExceptT.run_bind, StateT.run_bind]
  cases left : (x.run.run s) with
  | mk result s' => cases result <;> rfl

/-- Steps keep a property of the session, however they end. -/
def Preserves (P : Session → Prop) (x : Running α) : Prop := ∀ s, P s → P (x.startedIn s).2

variable {P : Session → Prop}

theorem Preserves.bind {x : Running α} {k : α → Running β} (first : Preserves P x)
    (second : ∀ a, Preserves P (k a)) : Preserves P (x >>= k) := by
  intro s holds
  have between := first s holds
  rw [startedIn_bind]
  rcases left : x.startedIn s with ⟨result, s'⟩
  rw [left] at between
  cases result with
  | error f => exact between
  | ok a => exact second a s' between

/-- Steps that look at the session first. -/
theorem startedIn_get (k : Session → Running β) (s : Session) :
    (get >>= k).startedIn s = (k s).startedIn s := rfl

/-- Steps that begin with a new session. -/
theorem startedIn_set (s' : Session) (k : PUnit → Running β) (s : Session) :
    (set s' >>= k).startedIn s = (k ⟨⟩).startedIn s' := rfl

end Running

open Running

variable (inv : Invocation) (values : Fields)

/-! ### Steps that only note -/

theorem logged_append (around : Log.Surroundings) (rs rs' : List Log.Record) (s : Session) :
    logged around (rs ++ rs') s = logged around rs' (logged around rs s) := by
  unfold logged Setup.deliverAll
  rw [List.foldl_append]

/-- Steps note records of the program, however they end, and change nothing else of the session. -/
def Notes {α : Type} (x : Running α) : Prop :=
  ∀ s, ∃ rs, (∀ r ∈ rs, r.IsOwn) ∧ (x.startedIn s).2 = logged inv.surroundings rs s

section Notes

variable {inv} {α β : Type}

theorem notes_of_stays {x : Running α} (stays : ∀ s, (x.startedIn s).2 = s) : Notes inv x := by
  intro s
  exact ⟨[], List.forall_mem_nil _, stays s⟩

theorem notes_note {rs : List Record} (own : ∀ r ∈ rs, r.IsOwn) : Notes inv (note inv rs) :=
  fun _ => ⟨rs, own, rfl⟩

theorem Notes.bind {x : Running α} {k : α → Running β} (first : Notes inv x)
    (second : ∀ a, Notes inv (k a)) : Notes inv (x >>= k) := by
  intro s
  obtain ⟨rs, own, noted⟩ := first s
  rw [startedIn_bind]
  rcases left : x.startedIn s with ⟨result, s'⟩
  rw [left] at noted
  subst noted
  cases result with
  | error f => exact ⟨rs, own, rfl⟩
  | ok a =>
      obtain ⟨rs', own', noted'⟩ := second a (logged inv.surroundings rs s)
      refine ⟨rs ++ rs', ?_, ?_⟩
      · intro r mem
        rcases List.mem_append.1 mem with mem | mem
        · exact own r mem
        · exact own' r mem
      · rw [logged_append]
        exact noted'

end Notes

/-- A record that is made on the spot. -/
theorem isOwn_of_mem_singleton (source : Log.Source) (severity : Severity) (text : String)
    (remark : Option Remark) : ∀ r ∈ [source.record severity text remark], r.IsOwn := by
  intro r mem
  rw [List.mem_singleton.1 mem]
  exact source.isOwn severity text remark

/-- Records whose texts were read twice. -/
theorem isOwn_of_mem_toldTwice {rs : List Record} (own : ∀ r ∈ rs, r.IsOwn) (others : List Record) :
    ∀ r ∈ toldTwice rs others, r.IsOwn := by
  intro r mem
  obtain ⟨n, within, rfl⟩ := List.mem_mapIdx.1 mem
  exact (own _ (List.getElem_mem within)).ofTwice _

theorem notes_liftExcept {α : Type} (r : Except Failure α) : Notes inv (convert.liftExcept r) :=
  notes_of_stays fun s => by cases r <;> rfl

theorem notes_inputBytes (name : String) : Notes inv (inputBytes inv name) := by
  refine notes_of_stays fun s => ?_
  unfold inputBytes
  split
  · rfl
  · rw [startedIn_get]
    dsimp only
    split
    · rfl
    · split <;> rfl
    · rfl

theorem notes_readTree (json : Bool) (o : Markdown.Options) (content : List UInt8) :
    Notes inv (readTree inv json o content) := by
  unfold readTree
  refine (notes_note fun r => Charset.isOwn_of_mem_readText r).bind fun _ => ?_
  dsimp only
  split
  · split <;> exact notes_of_stays fun _ => rfl
  · split
    · rename_i p parsed
      have own : ∀ r ∈ p.log ++ [stageRecord inv .parsing "Parsing (markdown)"], r.IsOwn := by
        intro r mem
        rcases List.mem_append.1 mem with mem | mem
        · exact Markdown.isOwn_of_mem_parse parsed r mem
        · exact isOwn_of_mem_singleton _ _ _ _ r mem
      exact (notes_note own).bind fun _ => notes_of_stays fun _ => rfl
    · exact notes_of_stays fun _ => rfl

theorem notes_renderTree (blank : Bool) (o : PlainText.Options) (tree : Twice Node) :
    Notes inv (renderTree inv blank o tree) := by
  unfold renderTree
  dsimp only
  refine (notes_note (isOwn_of_mem_toldTwice PlainText.isOwn_of_mem_render _)).bind fun _ => ?_
  split
  · exact notes_of_stays fun _ => rfl
  · refine (notes_note (isOwn_of_mem_singleton _ _ _ _)).bind fun _ => ?_
    split <;> exact notes_of_stays fun _ => rfl

/-- Converting prints nothing and writes no file but those of the log. -/
theorem notes_convert : Notes inv (convert inv values) := by
  unfold convert
  refine (notes_liftExcept inv _).bind fun reading => ?_
  refine (notes_liftExcept inv _).bind fun rendering => ?_
  refine (notes_inputBytes inv _).bind fun content => ?_
  refine (notes_readTree inv _ _ _).bind fun tree => ?_
  exact notes_renderTree inv _ _ _

/-! ### The console -/

end CommandLine

end Unmark
