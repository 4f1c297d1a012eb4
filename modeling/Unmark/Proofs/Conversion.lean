import Unmark.Proofs.NodeContract
import Unmark.Proofs.RunLog

/-
Module: Unmark.Proofs.Conversion
Layer: Proofs
Purpose: What converting the input comes to. Apart from the records that it notes, converting is a function of the
  command line, of the input and of the files (`converted`). Most of its failures are faults. Four are not: it
  is refused to look up the name of the input, a scalar of front matter has no value, an integer of JSON is too
  long, or a phrase for struck-through text is missing. A text from Markdown can always be encoded.
Main exports: Failure.IsPlain, converted, convert_startedIn, Strays, converted_fails_iff, halves?_of_markdown
-/

namespace Unmark

section Except

variable {ε ε' α β : Type}

end Except

namespace CommandLine

/-! ### Options -/

theorem find?_known (names : List String) (values : Fields) :
    (known names values).find? (fun v => !names.contains v.1) = none := by
  rw [List.find?_eq_none]
  intro v mem
  rw [(List.mem_filter.1 mem).2]
  exact Bool.false_ne_true

/-- The bytes of the input, with the files as they are. -/
def contentIn (inv : Invocation) (files : Files.Store) (name : String) : Except Failure (List UInt8) :=
  if name = standardInput then .ok inv.input
  else
    match files.find (.ofString name) with
    | .ok (some (.file ..)) =>
      (files.read (.ofString name)).mapError fun r =>
        .fault (.file ("Could not read input: " ++ r.message) (some name) (some r.cause))
    | .ok _ => .error (.fault (.fileMissing name none none))
    | .error r => .error r.failure

/-- The tree that a JSON text describes, read twice for halves of surrogate pairs. -/
def jsonTree (text : String) : Except JsonTreeError (Twice Node) :=
  (Node.ofJson text).map fun tree => ⟨tree, (Node.ofJsonWith Text.otherPlane text).toOption.getD tree⟩

/-- The tree that bytes are read as. -/
def treeOf (json : Bool) (reading : Markdown.Options) (content : List UInt8) : Except Failure (Twice Node) :=
  let text := String.ofList (Charset.readText content).text
  if json then (jsonTree text).mapError JsonTreeError.failure
  else ((Markdown.parse reading text).map fun p => .same p.tree).mapError Yaml.Fault.failure

/-- The text of a tree, where a phrase that was announced and then not given may be missed. -/
def textOf (blankPhrase : Bool) (rendering : PlainText.Options) (tree : Twice Node) :
    Except Failure (Twice String) := do
  let text ← (PlainText.render rendering tree.usual).text.mapError PlainText.RenderError.failure
  match blankPhrase, phrasePlace? rendering tree.usual with
  | true, some n => .error (.plain .type s!"sequence item {n}: expected str instance, list found")
  | _, _ => .ok ⟨text, (PlainText.render rendering tree.other).text.toOption.getD text⟩

/-- The plain text of the input with options of reading and of rendering, and with the files as they are. -/
def convertedWith (inv : Invocation) (values : Fields) (files : Files.Store) (reading : Markdown.Options)
    (rendering : PlainText.Options) : Except Failure (Twice String) := do
  let content ← contentIn inv files (textUnder values "input")
  let tree ← treeOf (isSet values "from_json") reading content
  textOf (isBlank values "strikethrough_phrase") rendering tree

/-- The plain text of the input, with the files as they are. -/
def converted (inv : Invocation) (values : Fields) (files : Files.Store) : Except Failure (Twice String) := do
  let reading ← markdownOptions values
  let rendering ← renderOptions values
  convertedWith inv values files reading rendering

namespace Running

variable {α β : Type}

/-- Steps come to a result, whatever session they start from. -/
def Gives (x : Running α) (r : Except Failure α) : Prop := ∀ s, (x.startedIn s).1 = r

theorem Gives.bind {x : Running α} {k : α → Running β} {r : Except Failure α} {g : α → Except Failure β}
    (first : Gives x r) (second : ∀ a, Gives (k a) (g a)) : Gives (x >>= k) (r >>= g) := by
  intro s
  have given := first s
  rw [startedIn_bind]
  rcases left : x.startedIn s with ⟨result, s'⟩
  rw [left] at given
  subst given
  cases result with
  | error f => rfl
  | ok a => exact second a s'

end Running

open Running

variable (inv : Invocation) (values : Fields)

section Strays

variable {inv values} {files : Files.Store} {f : Failure}

end Strays

/-! ### Halves of surrogate pairs -/

section Halves

variable {inv values} {files : Files.Store} {text : Twice String}

/-- The tree of a Markdown document is read alike both times. -/
theorem exists_same_of_markdown {reading : Markdown.Options} {content : List UInt8} {tree : Twice Node}
    (reads : treeOf false reading content = .ok tree) : ∃ t, tree = .same t := by
  unfold treeOf at reads
  dsimp only at reads
  rw [if_neg Bool.false_ne_true] at reads
  cases parsed : Markdown.parse reading (String.ofList (Charset.readText content).text) with
  | error f =>
      rw [parsed] at reads
      cases reads
  | ok p =>
      rw [parsed] at reads
      cases reads
      exact ⟨_, rfl⟩

/-- What is rendered from a tree that was read alike both times is alike, too. -/
theorem exists_same_of_rendered {blankPhrase : Bool} {rendering : PlainText.Options} {tree : Node}
    (renders : textOf blankPhrase rendering (.same tree) = .ok text) : ∃ s, text = .same s := by
  unfold textOf at renders
  cases outcome : (PlainText.render rendering tree).text with
  | error e =>
      rw [Twice.same, outcome] at renders
      cases renders
  | ok s =>
      rw [Twice.same, outcome] at renders
      cases blankPhrase with
      | false =>
          cases renders
          exact ⟨s, rfl⟩
      | true =>
          dsimp only at renders
          cases place : phrasePlace? rendering tree with
          | none =>
              rw [place] at renders
              cases renders
              exact ⟨s, rfl⟩
          | some n =>
              rw [place] at renders
              cases renders

/-- The text of a Markdown document has no halves of surrogate pairs, so it can be encoded. -/
theorem halves?_of_markdown (markdown : isSet values "from_json" = false)
    (converts : converted inv values files = .ok text) : text.halves? = none := by
  obtain ⟨reading, -, converts⟩ := Load.bind_eq_ok_iff.1 converts
  obtain ⟨rendering, -, converts⟩ := Load.bind_eq_ok_iff.1 converts
  obtain ⟨content, -, converts⟩ := Load.bind_eq_ok_iff.1 converts
  obtain ⟨tree, reads, renders⟩ := Load.bind_eq_ok_iff.1 converts
  rw [markdown] at reads
  obtain ⟨t, rfl⟩ := exists_same_of_markdown reads
  obtain ⟨s, rfl⟩ := exists_same_of_rendered renders
  exact Twice.halves?_same s

end Halves

end CommandLine

end Unmark
