import Unmark.Markdown.Inline
import Unmark.Proofs.TokenNodes

/-
Module: Unmark.Proofs.InlineTokens
Layer: Proofs
Purpose: What the grammar guarantees of the tokens of a line. A URL is a text; a reference carries the label
  it was written with, was looked up by the key of that label, and the key is one of the document. Each
  operation of the reading keeps this: pushing and matching runs of emphasis, opening and closing brackets,
  and so the scan of a line with all that is read by itself within it (`sound_tokens`).
Main exports: Token.Sound, Token.AllSound, Environment.Sound, Goal.Sound, sound_emphasize, sound_tokens
-/

namespace Unmark.Markdown

/-! ### Sound tokens and environments -/

/-- What the grammar guarantees of a single token in a document with some known definitions. -/
structure Token.Sound (known : List (String × Definition)) (t : Token) : Prop where
  url : t.UrlIsText
  reference : ∀ r, t.reference = some r → ∃ label, t.label = some (.str label) ∧
    r = .str (labelKey label) ∧ labelKey label ∈ known.map Prod.fst
  level : t.type = .heading → ∀ n, depthOf t.attrs = some n → 0 ≤ n ∧ n ≤ 6
  number : t.type = .list → ∀ n, (numberingOf t.attrs).2 = some n → 0 ≤ n ∧ n < 1000000000

/-- The same for all tokens of a list and below it. -/
abbrev Token.AllSound (known : List (String × Definition)) (ts : List Token) : Prop :=
  Token.Every (Token.Sound known) ts

/-- A definition as the grammar stores it under a key. -/
structure Definition.Stored (key : String) (d : Definition) : Prop where
  label : ∃ label, d.label = some label ∧ labelKey label = key
  url : ∃ url, d.url = some (.str url)

/-- Definitions as the grammar collects them: each under the key of its label, and no key twice. -/
structure Environment.Sound (env : Environment) : Prop where
  stored : ∀ e ∈ env.links, e.2.Stored e.1
  distinct : (env.links.map Prod.fst).Nodup

theorem Environment.mem_of_link? {env : Environment} {key : String} {d : Definition}
    (found : env.link? key = some d) : (key, d) ∈ env.links := by
  obtain ⟨before, after, links, -⟩ := List.lookup_eq_some_iff.1 found
  rw [links]
  exact List.mem_append_right before List.mem_cons_self

section

variable {known more : List (String × Definition)}

/-- A token stays sound when definitions are added. -/
theorem Token.Sound.mono (subset : known ⊆ more) {t : Token} (sound : t.Sound known) : t.Sound more where
  url := sound.url
  reference r is_reference := by
    obtain ⟨label, has_label, key, among⟩ := sound.reference r is_reference
    exact ⟨label, has_label, key, List.map_subset Prod.fst subset among⟩
  level := sound.level
  number := sound.number

theorem Token.AllSound.mono (subset : known ⊆ more) {ts : List Token} (sound : Token.AllSound known ts) :
    Token.AllSound more ts :=
  Token.Every.imp (fun _ single => single.mono subset) ts sound

/-- A token without attributes and reference is sound. -/
theorem Token.Sound.bare (type : TokenType) (raw : Option String) (cs : List Token) :
    Token.Sound known (.mk type raw [] none none cs) where
  url d found := by simp [Token.attrs, Fields.get?] at found
  reference r found := by simp [Token.reference] at found
  level _ n depth := by
    have one : n = 1 := by simpa [Token.attrs, depthOf, Fields.get?, eq_comm] using depth
    omega
  number _ n number := by simp [Token.attrs, numberingOf, Fields.get?, Data.truthy] at number

theorem Token.allSound_leaf (type : TokenType) (raw : String) :
    Token.AllSound known [.leaf type raw] :=
  Token.every_cons.2 ⟨Token.Sound.bare type (some raw) [], Token.every_nil, Token.every_nil⟩

theorem Token.allSound_parent (type : TokenType) {cs : List Token} (children : Token.AllSound known cs) :
    Token.AllSound known [.parent type cs] :=
  Token.every_cons.2 ⟨Token.Sound.bare type none cs, children, Token.every_nil⟩

theorem Token.AllSound.reverse {ts : List Token} (sound : Token.AllSound known ts) :
    Token.AllSound known ts.reverse := by
  rw [Token.AllSound, Token.every_iff_forall_mem] at sound ⊢
  intro t mem
  exact sound t (List.mem_reverse.1 mem)

theorem Token.AllSound.filter (p : Token → Bool) {ts : List Token} (sound : Token.AllSound known ts) :
    Token.AllSound known (ts.filter p) := by
  rw [Token.AllSound, Token.every_iff_forall_mem] at sound ⊢
  intro t mem
  exact sound t ((List.mem_filter.1 mem).1)

/-! ### Emphasis -/

/-- A piece whose token is sound. -/
def Piece.Sound (known : List (String × Definition)) : Piece → Prop
  | .token t => Token.AllSound known [t]
  | .run _ => True

/-- A nest all of whose tokens are sound. -/
structure Nest.Sound (known : List (String × Definition)) (n : Nest) : Prop where
  openers : ∀ o ∈ n.openers, Token.AllSound known o.inside
  base : Token.AllSound known n.base

theorem sound_marks (mark : Char) (n : Nat) : Token.AllSound known [marks mark n] :=
  Token.allSound_leaf .text _

theorem Opener.sound_plain {o : Opener} (sound : Token.AllSound known o.inside) :
    Token.AllSound known o.plain := by
  rw [Opener.plain, Token.AllSound, Token.every_append]
  exact ⟨sound, sound_marks _ _⟩

theorem Nest.Sound.push {n : Nest} (sound : n.Sound known) {ts : List Token}
    (added : Token.AllSound known ts) : (n.push ts).Sound known := by
  obtain ⟨openers, base⟩ := n
  cases openers with
  | nil => exact ⟨sound.openers, Token.every_append.2 ⟨added, sound.base⟩⟩
  | cons o os =>
      have inner := sound.openers o List.mem_cons_self
      refine ⟨?_, sound.base⟩
      rw [Nest.push, List.forall_mem_cons]
      exact ⟨Token.every_append.2 ⟨added, inner⟩, fun o' mem => sound.openers o' (List.mem_cons_of_mem o mem)⟩

/-- What lies behind the opener that a run closes is sound, and so are the openers around it. -/
theorem Nest.sound_opener? (r : Run) : ∀ {os : List Opener}, (∀ o ∈ os, Token.AllSound known o.inside) →
    ∀ {inside o around}, Nest.opener? r os = some (inside, o, around) →
      Token.AllSound known inside ∧ Token.AllSound known o.inside ∧
        ∀ o ∈ around, Token.AllSound known o.inside
  | [], _, _, _, _, found => by simp [Nest.opener?] at found
  | first :: os, sound, inside, o, around, found => by
      rw [List.forall_mem_cons] at sound
      rw [Nest.opener?] at found
      split at found
      · cases found
        exact ⟨Token.every_nil, sound⟩
      · obtain ⟨⟨deeper, o', around'⟩, found, same⟩ := Option.map_eq_some_iff.1 found
        cases same
        obtain ⟨behind, own, outer⟩ := Nest.sound_opener? r sound.2 found
        exact ⟨Token.every_append.2 ⟨Opener.sound_plain sound.1, behind⟩, own, outer⟩

/-- Closing emphasis keeps a nest sound. -/
theorem Nest.Sound.close (r : Run) (left : Nat) {n : Nest} (sound : n.Sound known) :
    (n.close r left).2.Sound known := by
  induction left using Nat.strongRecOn generalizing n with
  | ind left ih =>
      rw [Nest.close]
      split
      · exact sound
      · next marks_left =>
          cases found : Nest.opener? r n.openers with
          | none => exact sound
          | some place =>
              obtain ⟨inside, o, around⟩ := place
              obtain ⟨behind, own, outer⟩ := Nest.sound_opener? r sound.openers found
              have token : ∀ type, Token.AllSound known [.parent type (inside ++ o.inside).reverse] :=
                fun type => Token.allSound_parent type
                  (Token.AllSound.reverse (Token.every_append.2 ⟨behind, own⟩))
              have outside : Nest.Sound known { n with openers := around } := ⟨outer, sound.base⟩
              have next : ∀ type used, Nest.Sound known
                  (if o.left ≤ used then
                    Nest.push { n with openers := around }
                      [.parent type (inside ++ o.inside).reverse, marks o.run.mark 0]
                  else
                    { n with openers :=
                      { o with left := o.left - used,
                               inside := [.parent type (inside ++ o.inside).reverse] } :: around }) := by
                intro type used
                split
                · exact outside.push (Token.every_cons_singleton.2 ⟨token type, sound_marks _ 0⟩)
                · exact ⟨List.forall_mem_cons.2 ⟨token type, outer⟩, sound.base⟩
              exact ih _ (by split <;> omega) (next _ _)

theorem Nest.Sound.add {n : Nest} (sound : n.Sound known) {p : Piece} (piece : p.Sound known) :
    (n.add p).Sound known := by
  cases p with
  | token t => exact sound.push piece
  | run r =>
      have closed : (if r.closes then n.close r r.length else (r.length, n)).2.Sound known := by
        split
        · exact sound.close r r.length
        · exact sound
      rw [Nest.add]
      generalize (if r.closes then n.close r r.length else (r.length, n)) = outcome at closed ⊢
      obtain ⟨left, after⟩ := outcome
      dsimp only
      split
      · exact ⟨List.forall_mem_cons.2 ⟨Token.every_nil, closed.openers⟩, closed.base⟩
      · exact closed.push (sound_marks _ _)

/-- Emphasis keeps tokens sound. -/
theorem sound_emphasize {ps : List Piece} (pieces : ∀ p ∈ ps, p.Sound known) :
    Token.AllSound known (emphasize ps) := by
  have nest : ∀ (ps : List Piece) (n : Nest), (∀ p ∈ ps, p.Sound known) → n.Sound known →
      (ps.foldl Nest.add n).Sound known := by
    intro ps
    induction ps with
    | nil => exact fun n _ sound => sound
    | cons p ps ih =>
        intro n pieces sound
        rw [List.forall_mem_cons] at pieces
        exact ih (n.add p) pieces.2 (sound.add pieces.1)
  have whole := nest ps {} pieces ⟨by simp, Token.every_nil⟩
  have openers : Token.AllSound known ((ps.foldl Nest.add {}).openers.flatMap Opener.plain) := by
    rw [Token.AllSound, Token.every_iff_forall_mem]
    intro t mem
    obtain ⟨o, among, mem⟩ := List.mem_flatMap.1 mem
    exact Token.every_iff_forall_mem.1 (Opener.sound_plain (whole.openers o among)) t mem
  exact Token.AllSound.filter _ (Token.AllSound.reverse (Token.every_append.2 ⟨openers, whole.base⟩))

/-! ### Brackets -/

/-- What a closing bracket may find behind it: a target, or the definition of a known label. -/
structure Goal.Sound (known : List (String × Definition)) (g : Goal) : Prop where
  url : ∃ url, g.definition.url = some (.str url)
  reference : ∀ key label, g.reference = some (key, label) →
    key = labelKey label ∧ key ∈ known.map Prod.fst

theorem Definition.url_attributes (d : Definition) : d.attributes.get? "url" = d.url := by
  obtain ⟨label, url, title⟩ := d
  cases url <;> cases title <;> simp [Definition.attributes, Fields.get?]

/-- A target carries its own URL. -/
theorem sound_target? {cs rest : List Char} {d : Definition} (found : target? cs = some (d, rest)) :
    Goal.Sound known ⟨d, none, rest⟩ := by
  unfold target? at found
  split at found
  · cases found
  · dsimp only at found
    split at found
    · cases found
      exact ⟨⟨_, rfl⟩, fun _ _ absent => by cases absent⟩
    · cases found

/-- A label that is looked up is one of the document. -/
theorem sound_reference? {env : Environment} (sound : env.Sound) {own : Option (List Char)}
    {cs : List Char} {g : Goal} (found : reference? env own cs = some g) : g.Sound env.links := by
  unfold reference? at found
  split at found
  next label rest _ =>
    cases label with
    | none => cases found
    | some label =>
        obtain ⟨d, stored, rfl⟩ := Option.map_eq_some_iff.1 found
        have among := Environment.mem_of_link? stored
        refine ⟨(sound.stored _ among).url, fun key' label' same => ?_⟩
        obtain ⟨key_eq, label_eq⟩ := Prod.mk.inj (Option.some.inj same)
        rw [← key_eq, ← label_eq]
        exact ⟨rfl, List.mem_map.2 ⟨_, among, rfl⟩⟩

theorem sound_goal? {env : Environment} (sound : env.Sound) {source after : List Char} {g : Goal}
    (found : goal? env source after = some g) : g.Sound env.links := by
  unfold goal? at found
  dsimp only at found
  split at found
  · next d rest target =>
      cases found
      split at target
      · exact sound_target? target
      · cases target
  · exact sound_reference? sound found

/-- Addresses that become text stay sound. -/
theorem Piece.Sound.withoutAddress {p : Piece} (sound : p.Sound known) :
    (withoutAddress p).Sound known := by
  unfold Markdown.withoutAddress
  split
  · exact Token.allSound_leaf .text _
  · exact sound

/-- The link or image of a sound goal is sound. -/
theorem Bracket.sound_token {b : Bracket} (inside : ∀ p ∈ b.inside, p.Sound known) {g : Goal}
    (goal : g.Sound known) : Token.AllSound known [b.token g] := by
  have pieces : ∀ p ∈ (if b.image then b.inside else b.inside.map withoutAddress).reverse,
      p.Sound known := by
    intro p mem
    rw [List.mem_reverse] at mem
    split at mem
    · exact inside p mem
    · obtain ⟨p', among, rfl⟩ := List.mem_map.1 mem
      exact (inside p' among).withoutAddress
  refine Token.every_cons.2 ⟨?_, sound_emphasize pieces, Token.every_nil⟩
  have own_type : b.image = true ∨ b.image = false := by cases b.image <;> simp
  refine { url := ?_, reference := ?_, level := ?_, number := ?_ }
  · intro d found
    obtain ⟨url, is_text⟩ := goal.url
    rw [Bracket.token, Token.attrs, Definition.url_attributes, is_text] at found
    cases found
    exact ⟨url, rfl⟩
  · intro r found
    obtain ⟨⟨key, label⟩, reference, rfl⟩ := Option.map_eq_some_iff.1 found
    obtain ⟨rfl, among⟩ := goal.reference key label reference
    exact ⟨label, by simp [Bracket.token, Token.label, reference], rfl, among⟩
  · intro heading
    cases image : b.image <;> simp [Bracket.token, Token.type, image] at heading
  · intro list
    cases image : b.image <;> simp [Bracket.token, Token.type, image] at list

/-! ### Lines -/

/-- A line all of whose pieces are sound. -/
structure Line.Sound (known : List (String × Definition)) (line : Line) : Prop where
  brackets : ∀ b ∈ line.brackets, ∀ p ∈ b.inside, p.Sound known
  base : ∀ p ∈ line.base, p.Sound known

/-- An item whose token or goal is sound. -/
def Item.Sound (known : List (String × Definition)) : Item → Prop
  | .token t => Token.AllSound known [t]
  | .closing (some g) => g.Sound known
  | _ => True

theorem Line.sound_text (s : String) : (Line.text s).Sound known := Token.allSound_leaf .text s

theorem Line.Sound.push {line : Line} (sound : line.Sound known) {ps : List Piece}
    (added : ∀ p ∈ ps, p.Sound known) : (line.push ps).Sound known := by
  obtain ⟨brackets, base, inLink⟩ := line
  cases brackets with
  | nil => exact ⟨sound.brackets, List.forall_mem_append.2 ⟨added, sound.base⟩⟩
  | cons b bs =>
      have brackets := List.forall_mem_cons.1 sound.brackets
      exact ⟨List.forall_mem_cons.2 ⟨List.forall_mem_append.2 ⟨added, brackets.1⟩, brackets.2⟩, sound.base⟩

theorem Line.Sound.flatten {line : Line} (sound : line.Sound known) : line.flatten.Sound known := by
  obtain ⟨brackets, base, inLink⟩ := line
  cases brackets with
  | nil => exact sound
  | cons b bs =>
      have brackets := List.forall_mem_cons.1 sound.brackets
      have outer : Line.Sound known { brackets := bs, base, inLink } := ⟨brackets.2, sound.base⟩
      refine outer.push (List.forall_mem_append.2 ⟨brackets.1, ?_⟩)
      exact List.forall_mem_singleton.2 (Line.sound_text _)

/-- A line stays sound when an item is added. -/
theorem Line.Sound.add {line : Line} (sound : line.Sound known) {item : Item}
    (added : item.Sound known) : (line.add item).Sound known := by
  cases item with
  | token t => exact sound.push (List.forall_mem_singleton.2 added)
  | run r => exact sound.push (List.forall_mem_singleton.2 trivial)
  | markup source =>
      have pushed : (line.push [.token (.leaf .inlineHtml source)]).Sound known :=
        sound.push (List.forall_mem_singleton.2 (Token.allSound_leaf .inlineHtml source))
      exact ⟨pushed.brackets, pushed.base⟩
  | opening image source =>
      exact ⟨List.forall_mem_cons.2 ⟨by simp, sound.brackets⟩, sound.base⟩
  | closing goal =>
      cases goal with
      | none => exact sound.flatten.push (List.forall_mem_singleton.2 (Line.sound_text _))
      | some g =>
          obtain ⟨brackets, base, inLink⟩ := line
          cases brackets with
          | nil => exact sound
          | cons b bs =>
              have inner := List.forall_mem_cons.1 sound.brackets
              have outer : Line.Sound known
                  { brackets := if b.image then bs else bs.map Bracket.bar, base, inLink } := by
                refine ⟨?_, sound.base⟩
                split
                · exact inner.2
                · intro b' mem
                  obtain ⟨b'', among, rfl⟩ := List.mem_map.1 mem
                  have same : b''.bar.inside = b''.inside := by
                    rw [Bracket.bar]
                    split <;> rfl
                  rw [same]
                  exact inner.2 b'' among
              exact outer.push (List.forall_mem_singleton.2 (Bracket.sound_token inner.1 added))

theorem Line.Sound.pieces {line : Line} (sound : line.Sound known) :
    ∀ p ∈ line.pieces, p.Sound known := by
  intro p mem
  rw [Line.pieces, List.mem_reverse, List.mem_append, List.mem_flatMap] at mem
  rcases mem with ⟨b, among, mem⟩ | mem
  · rcases List.mem_append.1 mem with mem | mem
    · exact sound.brackets b among p mem
    · rw [List.mem_singleton] at mem
      rw [mem]
      exact Line.sound_text _
  · exact sound.base p mem

end

/-! ### The scan of a line -/

namespace Inline

variable {known : List (String × Definition)}

theorem sound_textPiece (text : List Char) : ∀ p ∈ textPiece text, p.Sound known := by
  intro p mem
  rw [textPiece] at mem
  split at mem
  · cases mem
  · rw [List.mem_singleton] at mem
    rw [mem]
    exact Line.sound_text _

theorem sound_lineBreak? {cs rest : List Char} {t : Token} (found : lineBreak? cs = some (t, rest)) :
    Token.AllSound known [t] := by
  unfold lineBreak? at found
  split at found
  · cases found
    exact Token.allSound_parent .lineBreak Token.every_nil
  · dsimp only at found
    split at found
    · cases found
      exact Token.allSound_parent _ Token.every_nil
    · cases found

theorem sound_codeSpan? {cs rest : List Char} {t : Token} (found : codeSpan? cs = some (t, rest)) :
    Token.AllSound known [t] := by
  unfold codeSpan? at found
  dsimp only at found
  split at found
  · cases found
  · cases found
    exact Token.allSound_leaf .codeSpan _

theorem sound_autoLink (inLink : Bool) (scheme text : List Char) :
    Token.AllSound known [autoLink inLink scheme text] := by
  rw [autoLink]
  split
  · exact Token.allSound_leaf .text _
  · refine Token.every_cons.2 ⟨?_, Token.allSound_leaf .text _, Token.every_nil⟩
    refine { url := ?_, reference := ?_, level := ?_, number := ?_ }
    · intro d found
      simp only [Token.attrs, Fields.get?, List.find?_cons_of_pos, beq_self_eq_true, Option.map_some,
        Option.some.injEq] at found
      exact ⟨_, found.symm⟩
    · intro r found
      cases found
    · intro heading
      cases heading
    · intro list
      cases list

theorem sound_angle? {inLink : Bool} {cs rest : List Char} {item : Item}
    (found : angle? inLink cs = some (item, rest)) : item.Sound known := by
  unfold angle? at found
  split at found
  · cases found
    exact sound_autoLink inLink [] _
  · split at found
    · cases found
      exact sound_autoLink inLink _ _
    · obtain ⟨_, _, same⟩ := Option.map_eq_some_iff.1 found
      cases same
      trivial

theorem sound_note? {ctx : Context} {cs rest : List Char} {item : Item}
    (found : note? ctx cs = some (item, rest)) : item.Sound known := by
  unfold note? at found
  split at found
  · obtain ⟨⟨key, _⟩, _, same⟩ := Option.map_eq_some_iff.1 found
    cases same
    dsimp only [Item.Sound]
    split
    · exact Token.allSound_leaf .footnoteRef _
    · exact Token.allSound_leaf .text _
  · cases found

/-- An item that is a token is sound if the token is. -/
theorem Item.sound_of_map {known : List (String × Definition)} {tokens : Option (Token × List Char)}
    {item : Item} {rest : List Char}
    (sound : ∀ t after, tokens = some (t, after) → Token.AllSound known [t])
    (found : tokens.map (fun (t, after) => (Item.token t, after)) = some (item, rest)) :
    item.Sound known := by
  obtain ⟨⟨t, after⟩, read, same⟩ := Option.map_eq_some_iff.1 found
  cases same
  exact sound _ _ read

theorem sound_closing? {ctx : Context} (env : ctx.env.Sound) {line : Line} {cs rest : List Char}
    {item : Item} (found : closing? ctx line cs = some (item, rest)) : item.Sound ctx.env.links := by
  obtain ⟨b, _, closes⟩ := Option.map_eq_some_iff.1 found
  split at closes
  · next g goal =>
      cases closes
      split at goal
      · exact sound_goal? env goal
      · cases goal
  · cases closes
    trivial

mutual

/-- The tokens of a text are sound. -/
theorem sound_read : ∀ (fuel : Nat) (ctx : Context) (cs : List Char), ctx.env.Sound →
    Token.AllSound ctx.env.links (read fuel ctx cs)
  | 0, ctx, cs, _ => by
      rw [read]
      exact Token.every_nil
  | fuel + 1, ctx, cs, env => by
      rw [read]
      split
      · exact Token.allSound_leaf .text _
      · have empty : Line.Sound ctx.env.links { inLink := ctx.inLink } := ⟨by simp, by simp⟩
        exact sound_emphasize (sound_scan fuel ctx ' ' [] cs env empty).pieces

/-- A line stays sound while it is read. -/
theorem sound_scan : ∀ (fuel : Nat) (ctx : Context) (before : Char) (text : List Char) {line : Line}
    (cs : List Char), ctx.env.Sound → line.Sound ctx.env.links →
      (scan fuel ctx before text line cs).Sound ctx.env.links
  | 0, ctx, before, text, line, cs, _, sound => by
      rw [scan]
      exact sound.push (sound_textPiece text)
  | fuel + 1, ctx, before, text, line, [], _, sound => by
      rw [scan]
      exact sound.push (sound_textPiece text)
  | fuel + 1, ctx, before, text, line, c :: rest, env, sound => by
      rw [scan]
      split
      · exact sound_scan fuel ctx c (c :: text) rest env sound
      · next item rest' found =>
          have added := sound_item? fuel ctx line before c rest env found
          exact sound_scan fuel ctx _ [] rest' env ((sound.push (sound_textPiece text)).add added)

/-- What is read at one place of a line is sound. -/
theorem sound_item? : ∀ (fuel : Nat) (ctx : Context) (line : Line) (before c : Char) (cs : List Char)
    {item : Item} {rest : List Char}, ctx.env.Sound → item? fuel ctx line before c cs = some (item, rest) →
      item.Sound ctx.env.links
  | 0, ctx, line, before, c, cs, item, rest, _, found => by simp [item?] at found
  | fuel + 1, ctx, line, before, c, cs, item, rest, env, found => by
      unfold item? at found
      dsimp only at found
      split at found
      · -- A backslash: escaped characters or a line break.
        split at found
        · exact Item.sound_of_map (fun _ _ => sound_lineBreak?) found
        · refine Item.sound_of_map (fun t after read => ?_) found
          cases read
          exact Token.allSound_leaf .text _
      · exact Item.sound_of_map (fun _ _ => sound_lineBreak?) found
      · exact Item.sound_of_map (fun _ _ => sound_lineBreak?) found
      · -- Backticks: a code span, or the backticks themselves.
        split at found
        · next span =>
            refine Item.sound_of_map (fun t after read => ?_) found
            cases read
            exact sound_codeSpan? span
        · refine Item.sound_of_map (fun t after read => ?_) found
          cases read
          exact Token.allSound_leaf .text _
      · cases found
        trivial
      · cases found
        trivial
      · split at found
        · exact Item.sound_of_map (fun _ _ => sound_strikethrough? fuel { ctx with inLink := line.inLink } _ env) found
        · cases found
      · split at found
        · next note =>
            cases found
            exact sound_note? note
        · split at found
          · cases found
          · cases found
            trivial
      · split at found
        · cases found
          trivial
        · cases found
      · exact sound_closing? env found
      · exact sound_angle? found
      · cases found

/-- Struck-out text is sound. -/
theorem sound_strikethrough? : ∀ (fuel : Nat) (ctx : Context) (cs : List Char) {t : Token}
    {rest : List Char}, ctx.env.Sound → strikethrough? fuel ctx cs = some (t, rest) →
      Token.AllSound ctx.env.links [t]
  | 0, ctx, cs, t, rest, _, found => by simp [strikethrough?] at found
  | fuel + 1, ctx, cs, t, rest, env, found => by
      unfold strikethrough? at found
      dsimp only at found
      split at found
      · split at found
        · cases found
        · obtain ⟨⟨text, after⟩, _, same⟩ := Option.map_eq_some_iff.1 found
          cases same
          exact Token.allSound_parent .strikethrough (sound_read fuel ctx text env)
      · cases found

end

/-- The tokens of a text are sound in the document whose definitions it is read with. -/
theorem sound_tokens {ctx : Context} (env : ctx.env.Sound) (cs : List Char) :
    Token.AllSound ctx.env.links (tokens ctx cs) :=
  sound_read _ ctx cs env

end Inline

end Unmark.Markdown
