import Unmark.Proofs.FrontMatterFaults
import Unmark.Proofs.TextLines

/-
Module: Unmark.Proofs.FrontMatterCut
Layer: Proofs
Purpose: Where front matter is cut off a text. The text is cut into an opening fence, the source of the front
  matter, a closing fence and the rest, each of them whole lines, and nothing is lost between them
  (`cut?_eq_some_iff`). The closing fence is the first line after the opening that white space is trimmed
  off down to a fence. The cut does not depend on how the lines of a text end: when line feeds become pairs of
  carriage return and line feed, every piece changes in the same way (`cut?_crlf`).
Main exports: OpeningFence, Fenced, cut?_eq_some_iff, extract_cuts_at_fences, cut?_crlf, extract_crlf
-/

namespace Unmark.Markdown.FrontMatter

open Text

/-! ### Fences -/

/-- The line that opens front matter: a fence and nothing else, with one of two line ends. -/
def OpeningFence (opening : List Char) : Prop := opening = fence ++ ['\n'] ∨ opening = fence ++ ['\r', '\n']

theorem opens_iff {cs : List Char} :
    opens cs = true ↔ ∃ opening back, OpeningFence opening ∧ cs = opening ++ back := by
  constructor
  · intro starts
    unfold opens at starts
    split at starts
    · next back found =>
        refine ⟨fence ++ ['\n'], back, .inl rfl, ?_⟩
        rw [after?_eq_some_iff.1 found, List.append_assoc]
        rfl
    · next back found =>
        refine ⟨fence ++ ['\r', '\n'], back, .inr rfl, ?_⟩
        rw [after?_eq_some_iff.1 found, List.append_assoc]
        rfl
    · cases starts
  · rintro ⟨opening, back, rfl | rfl, rfl⟩
    · rfl
    · rfl

theorem unbroken_fence : Unbroken fence := by
  have hyphens : fence = List.replicate 3 '-' := rfl
  intro c mem
  rw [hyphens] at mem
  rw [List.eq_of_mem_replicate mem]
  rfl

theorem OpeningFence.ended {opening : List Char} (h : OpeningFence opening) : Ended opening := by
  rcases h with rfl | rfl
  · exact ⟨fence, _, unbroken_fence, .single rfl, rfl⟩
  · exact ⟨fence, _, unbroken_fence, .pair, rfl⟩

theorem OpeningFence.getLast? {opening : List Char} (h : OpeningFence opening) :
    opening.getLast? = some '\n' := by
  rcases h with rfl | rfl
  · rfl
  · rfl

/-- The opening fence is the first line of the text that it opens. -/
theorem OpeningFence.splitLines_append {opening : List Char} (h : OpeningFence opening) (back : List Char) :
    splitLines (opening ++ back) = opening :: splitLines back := by
  apply splitLines_ended h.ended
  rw [h.getLast?]
  rintro ⟨feed, -⟩
  cases feed

theorem isFence_iff {line : List Char} : isFence line = true ↔ trim line = fence := beq_iff_eq

/-- The lines up to a fence are those in front of the first one. -/
theorem toFence?_eq_some_iff {ls before after : List (List Char)} : toFence? ls = some (before, after) ↔
    ∃ closing, ls = before ++ closing :: after ∧ trim closing = fence ∧ ∀ l ∈ before, trim l ≠ fence := by
  induction ls generalizing before with
  | nil => simp [toFence?]
  | cons line ls ih =>
      rw [toFence?]
      by_cases closes : isFence line = true
      · rw [if_pos closes, Option.some.injEq, Prod.mk.injEq]
        constructor
        · rintro ⟨rfl, rfl⟩
          exact ⟨line, rfl, isFence_iff.1 closes, by simp⟩
        · rintro ⟨closing, split, -, none_before⟩
          cases before with
          | nil => exact ⟨rfl, (List.cons_eq_cons.1 split).2⟩
          | cons first before =>
              obtain ⟨rfl, -⟩ := List.cons_eq_cons.1 split
              exact absurd (isFence_iff.1 closes) (none_before _ List.mem_cons_self)
      · rw [if_neg closes, Option.map_eq_some_iff]
        constructor
        · rintro ⟨⟨before', after'⟩, found, same⟩
          obtain ⟨rfl, rfl⟩ := Prod.mk.inj same
          obtain ⟨closing, rfl, closed, none_before⟩ := ih.1 found
          exact ⟨closing, rfl, closed, List.forall_mem_cons.2 ⟨mt isFence_iff.2 closes, none_before⟩⟩
        · rintro ⟨closing, split, closed, none_before⟩
          cases before with
          | nil =>
              obtain ⟨rfl, -⟩ := List.cons_eq_cons.1 split
              exact absurd (isFence_iff.2 closed) closes
          | cons first before =>
              obtain ⟨rfl, rfl⟩ := List.cons_eq_cons.1 split
              exact ⟨⟨before, after⟩,
                ih.2 ⟨closing, rfl, closed, (List.forall_mem_cons.1 none_before).2⟩, rfl⟩

theorem toFence?_eq_none_iff {ls : List (List Char)} : toFence? ls = none ↔ ∀ l ∈ ls, trim l ≠ fence := by
  induction ls with
  | nil => simp [toFence?]
  | cons line ls ih =>
      rw [toFence?, List.forall_mem_cons, ← ih]
      by_cases closes : isFence line = true
      · simp [closes, isFence_iff.1 closes]
      · simp [closes, mt isFence_iff.2 closes]

/-! ### The pieces of a text with front matter -/

/-- A text is cut into an opening fence, the source of front matter, a closing fence and the rest. The pieces
    hold whole lines: the source is empty or ends with a line end, and the closing fence is one line, which
    ends with a line end unless nothing comes after it. No line of the source is a fence. -/
structure Fenced (cs opening source closing rest : List Char) : Prop where
  whole : cs = opening ++ source ++ closing ++ rest
  lines : splitLines cs = opening :: (splitLines source ++ closing :: splitLines rest)
  opens : OpeningFence opening
  stops : source = [] ∨ ∃ front stop, LineEnd stop ∧ source = front ++ stop
  inside : ∀ line ∈ splitLines source, trim line ≠ fence
  closes : splitLines closing = [closing] ∧ trim closing = fence
  last : Ended closing ∨ rest = []

/-- Lines around a fence that were cut apart belong to the pieces that they make up. -/
theorem fenced_of_lines {opening back closing : List Char} {before after : List (List Char)}
    (opens : OpeningFence opening) (split : splitLines back = before ++ closing :: after)
    (closes : trim closing = fence) (inside : ∀ l ∈ before, trim l ≠ fence) :
    Fenced (opening ++ back) opening before.flatten closing after.flatten := by
  have lines : Lines (before ++ closing :: after) := split ▸ lines_splitLines back
  obtain ⟨front, later, -⟩ := lines_append.1 lines
  have before_eq : splitLines before.flatten = before := splitLines_flatten front
  have after_eq : splitLines after.flatten = after := splitLines_flatten later.tail
  have whole : back = before.flatten ++ closing ++ after.flatten := by
    rw [← flatten_splitLines back, split, List.flatten_append, List.flatten_cons, List.append_assoc]
  refine { whole := ?_, lines := ?_, opens := opens, stops := ?_, inside := ?_, closes := ?_, last := ?_ }
  · rw [whole, ← List.append_assoc, ← List.append_assoc]
  · rw [opens.splitLines_append, split, before_eq, after_eq]
  · -- Every line of the source has the closing fence behind it, so the last one is ended too.
    rcases List.eq_nil_or_concat' before with rfl | ⟨init, l, rfl⟩
    · exact .inl rfl
    · obtain ⟨body, stop, -, ends, rfl⟩ := lines.ended_of_mem List.mem_concat_self
      refine .inr ⟨init.flatten ++ body, stop, ends, ?_⟩
      simp
  · rw [before_eq]
    exact inside
  · have alone := splitLines_flatten later.head
    rw [List.flatten_singleton] at alone
    exact ⟨alone, closes⟩
  · cases after with
    | nil => exact .inr rfl
    | cons next after => exact .inl later.precedes.1

/-- The source of front matter and the rest of a text are what its fences cut it into. -/
theorem cut?_eq_some_iff {cs source rest : List Char} : cut? cs = some (source, rest) ↔
    ∃ opening closing, Fenced cs opening source closing rest := by
  rw [cut?]
  constructor
  · intro found
    split at found
    · next starts =>
        obtain ⟨opening, back, opens, rfl⟩ := opens_iff.1 starts
        rw [opens.splitLines_append, List.drop_one, List.tail_cons, Option.map_eq_some_iff] at found
        obtain ⟨⟨before, after⟩, found, pieces⟩ := found
        obtain ⟨rfl, rfl⟩ := Prod.mk.inj pieces
        obtain ⟨closing, split, closes, inside⟩ := toFence?_eq_some_iff.1 found
        exact ⟨opening, closing, fenced_of_lines opens split closes inside⟩
    · cases found
  · rintro ⟨opening, closing, fenced⟩
    have starts : FrontMatter.opens cs = true := by
      refine opens_iff.2 ⟨opening, source ++ closing ++ rest, fenced.opens, ?_⟩
      rw [fenced.whole, List.append_assoc, List.append_assoc, List.append_assoc]
    have found : toFence? (splitLines source ++ closing :: splitLines rest) =
        some (splitLines source, splitLines rest) :=
      toFence?_eq_some_iff.2 ⟨closing, rfl, fenced.closes.2, fenced.inside⟩
    rw [if_pos starts, fenced.lines, List.drop_one, List.tail_cons, found, Option.map_some, Option.some.injEq,
      Prod.mk.injEq]
    exact ⟨flatten_splitLines source, flatten_splitLines rest⟩

/-- A text of which nothing is cut off does not start with a fence, or none comes after the first line. -/
theorem cut?_eq_none_iff {cs : List Char} : cut? cs = none ↔
    (¬∃ opening back, OpeningFence opening ∧ cs = opening ++ back) ∨
      ∀ line ∈ (splitLines cs).tail, trim line ≠ fence := by
  rw [cut?, ← opens_iff, List.drop_one]
  split
  · next starts => rw [Option.map_eq_none_iff, toFence?_eq_none_iff, starts, eq_self, not_true, false_or]
  · next stays => simp [stays]

/-! ### The text of front matter -/

/-- The text of front matter is its source without the carriage returns and line feeds at its end. -/
structure Raw (source : List Char) (raw : String) : Prop where
  source : ∃ ends, source = raw.toList ++ ends ∧ ∀ c ∈ ends, c = '\r' ∨ c = '\n'
  last : ∀ c ∈ raw.toList.getLast?, c ≠ '\r' ∧ c ≠ '\n'

theorem raw_textOf (source : List Char) : Raw source (textOf source) := by
  rw [textOf, trimEndBy_eq_rdropWhile]
  refine { source := ?_, last := ?_ }
  · refine ⟨_, by rw [String.toList_ofList, List.rdropWhile_append_rtakeWhile], ?_⟩
    intro c mem
    simpa using List.mem_rtakeWhile_imp mem
  · intro c mem
    rw [String.toList_ofList] at mem
    obtain ⟨filled, rfl⟩ := List.mem_getLast?_eq_getLast mem
    simpa using List.rdropWhile_last_not _ _ filled

/-- Taking off front matter loses nothing. Either a text is cut at its fences, and then the source between
    them settles the value and its text is the text of the front matter, unless a scalar in it has no value;
    or the text is left as it is, since it does not start with a fence or has none on a later line. -/
theorem extract_cuts_at_fences (cs : List Char) :
    (∃ opening source closing rest, Fenced cs opening source closing rest ∧
      ((∃ raw d log, Raw source raw ∧ Settles source d log ∧
          extract cs = .ok ⟨some ⟨raw, d⟩, rest, log⟩) ∨
        ∃ f, f ≠ .invalid ∧ Yaml.load source = .error f ∧ extract cs = .error f)) ∨
    (extract cs = .ok ⟨none, cs, []⟩ ∧
      ((¬∃ opening back, OpeningFence opening ∧ cs = opening ++ back) ∨
        ∀ line ∈ (splitLines cs).tail, trim line ≠ fence)) := by
  cases cut : cut? cs with
  | none =>
      refine .inr ⟨?_, cut?_eq_none_iff.1 cut⟩
      rw [extract, cut]
  | some pieces =>
      obtain ⟨source, rest⟩ := pieces
      obtain ⟨opening, closing, fenced⟩ := cut?_eq_some_iff.1 cut
      refine .inl ⟨opening, source, closing, rest, fenced, ?_⟩
      cases taken : extract cs with
      | ok e =>
          obtain ⟨d, log, settles, rfl⟩ := extract_eq_ok cut taken
          exact .inl ⟨textOf source, d, log, raw_textOf source, settles, rfl⟩
      | error f =>
          obtain ⟨source', rest', cut', fails, scalar⟩ := extract_eq_error_iff.1 taken
          cases cut.symm.trans cut'
          exact .inr ⟨f, scalar, fails, rfl⟩

/-! ### The ends of lines -/

theorem isFence_crlf (line : List Char) : isFence (crlf line) = isFence line := by
  rw [Bool.eq_iff_iff, isFence_iff, isFence_iff, trim_crlf]
  constructor
  · intro same
    rwa [crlf_of_not_mem] at same
    intro feed
    have kept := mem_crlf_of_mem feed
    rw [same] at kept
    cases unbroken_fence _ kept
  · intro same
    rw [same, unbroken_fence.crlf_eq]

theorem toFence?_map_crlf (ls : List (List Char)) : toFence? (ls.map crlf) =
    (toFence? ls).map fun (before, after) => (before.map crlf, after.map crlf) := by
  induction ls with
  | nil => rfl
  | cons line ls ih =>
      rw [List.map_cons, toFence?, toFence?, isFence_crlf, ih]
      split
      · rfl
      · rw [Option.map_map, Option.map_map]
        rfl

/-- Both opening fences are the same one but for carriage returns. -/
theorem OpeningFence.filter_eq {opening : List Char} (h : OpeningFence opening) :
    opening.filter (· ≠ '\r') = fence ++ ['\n'] := by
  rcases h with rfl | rfl
  · rfl
  · rfl

theorem opens_crlf {cs : List Char} (plain : '\r' ∉ cs) : opens (crlf cs) = opens cs := by
  rw [Bool.eq_iff_iff, opens_iff, opens_iff]
  constructor
  · -- The text itself comes back when the carriage returns are taken out again.
    rintro ⟨opening, back, opens, same⟩
    refine ⟨fence ++ ['\n'], back.filter (· ≠ '\r'), .inl rfl, ?_⟩
    rw [← opens.filter_eq, ← List.filter_append, ← same, filter_crlf plain]
  · rintro ⟨opening, back, rfl | rfl, rfl⟩
    · refine ⟨fence ++ ['\r', '\n'], crlf back, .inr rfl, ?_⟩
      rw [crlf_append, crlf_append, unbroken_fence.crlf_eq]
      rfl
    · exact absurd (by simp) plain

/-- When the line feeds of a text become pairs, the cut stays where it is, and what is cut off and what is
    left change in the same way. -/
theorem cut?_crlf {cs : List Char} (plain : '\r' ∉ cs) :
    cut? (crlf cs) = (cut? cs).map fun (source, rest) => (crlf source, crlf rest) := by
  rw [cut?, cut?, opens_crlf plain, splitLines_crlf plain, ← List.map_drop, toFence?_map_crlf]
  split
  · rw [Option.map_map, Option.map_map]
    refine Option.map_congr ?_
    rintro ⟨before, after⟩ -
    simp [crlf_flatten]
  · rfl

/-- The source of the front matter of a text, if it has any, is loaded or is no YAML. -/
def Loads (cs : List Char) : Prop :=
  ∀ source rest f, cut? cs = some (source, rest) → Yaml.load source = .error f → f = .invalid

theorem loads_of_load {cs source rest : List Char} (cut : cut? cs = some (source, rest)) {d : Data}
    (loaded : Yaml.load source = .ok d) : Loads cs := by
  intro source' rest' f found fails
  cases cut.symm.trans found
  cases loaded.symm.trans fails

/-- What is taken off a text that loads is its cut, with some value and some records. -/
theorem Loads.exists_extract {cs : List Char} (loads : Loads cs) : ∃ e, extract cs = .ok e ∧
    e.found.map FrontMatter.raw = (cut? cs).map (fun pieces => textOf pieces.1) ∧
    e.rest = ((cut? cs).map Prod.snd).getD cs := by
  cases taken : extract cs with
  | error f =>
      obtain ⟨source, rest, cut, fails, scalar⟩ := extract_eq_error_iff.1 taken
      exact absurd (loads source rest f cut fails) scalar
  | ok e =>
      refine ⟨e, rfl, ?_⟩
      cases cut : cut? cs with
      | none =>
          rw [extract, cut] at taken
          cases taken
          exact ⟨rfl, rfl⟩
      | some pieces =>
          obtain ⟨d, log, -, rfl⟩ := extract_eq_ok cut taken
          exact ⟨rfl, rfl⟩

theorem textOf_crlf (source : List Char) :
    textOf (crlf source) = String.ofList (crlf (textOf source).toList) := by
  rw [textOf, textOf, trimEndBy_crlf rfl rfl, String.toList_ofList]

/-- Front matter does not depend on how the lines of a text end. When the line feeds of a text become pairs,
    it has front matter exactly when it had some before, and the text of the front matter and the rest change
    as the text does. -/
theorem extract_crlf {cs : List Char} (plain : '\r' ∉ cs) (loads : Loads cs) (loads_crlf : Loads (crlf cs)) :
    ∃ e e', extract cs = .ok e ∧ extract (crlf cs) = .ok e' ∧ (e'.found.isSome ↔ e.found.isSome) ∧
      e'.found.map FrontMatter.raw = e.found.map (fun m => String.ofList (crlf m.raw.toList)) ∧
      e'.rest = crlf e.rest := by
  obtain ⟨e, taken, raw, rest⟩ := loads.exists_extract
  obtain ⟨e', taken', raw', rest'⟩ := loads_crlf.exists_extract
  rw [cut?_crlf plain, Option.map_map] at raw' rest'
  have same_raw : e'.found.map FrontMatter.raw =
      e.found.map (fun m => String.ofList (crlf m.raw.toList)) := by
    calc e'.found.map FrontMatter.raw
        = (cut? cs).map (fun pieces => textOf (crlf pieces.1)) := raw'
      _ = ((cut? cs).map (fun pieces => textOf pieces.1)).map (fun raw => String.ofList (crlf raw.toList)) := by
          rw [Option.map_map]
          exact Option.map_congr fun pieces _ => textOf_crlf pieces.1
      _ = e.found.map (fun m => String.ofList (crlf m.raw.toList)) := by
          rw [← raw, Option.map_map]
          rfl
  refine ⟨e, e', taken, taken', ?_, same_raw, ?_⟩
  · have same_found := congrArg Option.isSome same_raw
    rw [Option.isSome_map, Option.isSome_map] at same_found
    rw [same_found]
  · rw [rest', rest]
    cases cut? cs with
    | none => rfl
    | some pieces => rfl

/-- A form feed behind the closing fence ends its line, so the line feed after it starts the rest. -/
theorem extract_crlf_form_feed : ∃ e e', extract "---\na: b\nc: d\n---\x0c\nx\n".toList = .ok e ∧
    extract "---\r\na: b\r\nc: d\r\n---\x0c\r\nx\r\n".toList = .ok e' ∧
    e.found.map FrontMatter.raw = some "a: b\nc: d" ∧ e.rest = "\nx\n".toList ∧
    e'.found.map FrontMatter.raw = some "a: b\r\nc: d" ∧ e'.rest = "\r\nx\r\n".toList := by
  have plain : '\r' ∉ "---\na: b\nc: d\n---\x0c\nx\n".toList := by decide
  have pairs : crlf "---\na: b\nc: d\n---\x0c\nx\n".toList = "---\r\na: b\r\nc: d\r\n---\x0c\r\nx\r\n".toList := by
    decide
  have cut : cut? "---\na: b\nc: d\n---\x0c\nx\n".toList = some ("a: b\nc: d\n".toList, "\nx\n".toList) := by
    decide +kernel
  have cut_crlf : cut? "---\r\na: b\r\nc: d\r\n---\x0c\r\nx\r\n".toList =
      some ("a: b\r\nc: d\r\n".toList, "\r\nx\r\n".toList) := by decide +kernel
  have tokens : Yaml.Token.scan "a: b\nc: d\n".toList =
      [.blockMappingStart, .key, .scalar "a" true, .value, .scalar "b" true, .key,
        .scalar "c" true, .value, .scalar "d" true, .blockEnd, .streamEnd] := by decide +kernel
  have tokens_crlf : Yaml.Token.scan "a: b\r\nc: d\r\n".toList =
      [.blockMappingStart, .key, .scalar "a" true, .value, .scalar "b" true, .key,
        .scalar "c" true, .value, .scalar "d" true, .blockEnd, .streamEnd] := by decide +kernel
  have loads : Loads "---\na: b\nc: d\n---\x0c\nx\n".toList := loads_of_load cut (by rw [Yaml.load, tokens]; rfl)
  have loads_crlf : Loads "---\r\na: b\r\nc: d\r\n---\x0c\r\nx\r\n".toList :=
    loads_of_load cut_crlf (by rw [Yaml.load, tokens_crlf]; rfl)
  rw [← pairs] at loads_crlf ⊢
  obtain ⟨e, e', taken, taken', -, raw, rest⟩ := extract_crlf plain loads loads_crlf
  obtain ⟨d, log, -, rfl⟩ := extract_eq_ok cut taken
  have text : textOf "a: b\nc: d\n".toList = "a: b\nc: d" := by decide
  have text_crlf : String.ofList (crlf "a: b\nc: d".toList) = "a: b\r\nc: d" := by decide
  refine ⟨_, e', taken, taken', congrArg some text, rfl, ?_, rest⟩
  rw [raw, Option.map_some, text]
  exact congrArg some text_crlf

end Unmark.Markdown.FrontMatter
