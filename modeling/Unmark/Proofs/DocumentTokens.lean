import Unmark.Markdown.Grammar
import Unmark.Proofs.BlockScan

/-
Module: Unmark.Proofs.DocumentTokens
Layer: Proofs
Purpose: What the grammar guarantees of a whole document. Texts of blocks are read with the definitions of the
  document at hand, footnotes add definitions but take none away, and so all tokens are sound in the
  document that they end up in (`sound_tokenize`).
Main exports: sound_blockTokens, sound_tokenize
-/

namespace Unmark.Markdown

/-- A token without a URL and a reference is sound if the number it carries is short. -/
theorem Token.allSound_mk {known : List (String × Definition)} {type : TokenType} {raw : Option String}
    {attrs : Fields} {cs : List Token} (url : attrs.get? "url" = none)
    (level : type = .heading → ∀ n, depthOf attrs = some n → 0 ≤ n ∧ n ≤ 6)
    (number : type = .list → ∀ n, (numberingOf attrs).2 = some n → 0 ≤ n ∧ n < 1000000000)
    (children : Token.AllSound known cs) : Token.AllSound known [.mk type raw attrs none none cs] := by
  refine Token.every_cons.2 ⟨{ url := ?_, reference := ?_, level, number }, children, Token.every_nil⟩
  · intro d found
    cases url.symm.trans found
  · intro r found
    cases found

section

variable {ctx : Inline.Context} (tasks : Bool)

theorem sound_inlineTokens (env : ctx.env.Sound) (cs : List Char) :
    Token.AllSound ctx.env.links (inlineTokens ctx cs) :=
  Inline.sound_tokens env _

theorem sound_cellTokens (env : ctx.env.Sound) (row : Row) :
    Token.AllSound ctx.env.links (cellTokens ctx row) := by
  refine Token.every_iff_forall_mem.2 fun t mem => ?_
  obtain ⟨cell, _, rfl⟩ := List.mem_map.1 mem
  exact Token.allSound_parent .tableCell (sound_inlineTokens env cell)

theorem sound_rowTokens (env : ctx.env.Sound) (body : List Row) : Token.AllSound ctx.env.links
    (body.map fun row => .parent .tableRow (cellTokens ctx row)) := by
  refine Token.every_iff_forall_mem.2 fun t mem => ?_
  obtain ⟨row, _, rfl⟩ := List.mem_map.1 mem
  exact Token.allSound_parent .tableRow (sound_cellTokens env row)

/-- A list item may be a task, whose box is not part of its first paragraph. -/
theorem sound_itemToken (env : ctx.env.Sound) {bs : List Block}
    (children : Token.AllSound ctx.env.links (blockTokens ctx tasks bs)) :
    Token.AllSound ctx.env.links [blockToken ctx tasks (.item bs)] := by
  have item := Token.allSound_parent .listItem children
  cases bs with
  | nil => simpa [blockToken] using item
  | cons b bs =>
      cases b
      case paragraph text =>
        rw [blockTokens] at children
        have paragraph := fun text => Token.every_cons_singleton.2
          ⟨Token.allSound_parent .paragraph (sound_inlineTokens env text),
            (Token.every_cons_singleton.1 children).2⟩
        unfold blockToken
        split
        · exact Token.allSound_mk rfl (fun heading => by cases heading) (fun list => by cases list)
            (paragraph _)
        · exact Token.allSound_parent .listItem (paragraph text)
      all_goals simpa [blockToken] using item

mutual

/-- The token of a sized block is sound in the document whose definitions its texts are read with. -/
theorem sound_blockToken (env : ctx.env.Sound) : ∀ b : Block, b.Sized →
    Token.AllSound ctx.env.links [blockToken ctx tasks b]
  | .blank, _ => by
      rw [blockToken]
      exact Token.allSound_parent .blankLine Token.every_nil
  | .paragraph text, _ => by
      rw [blockToken]
      exact Token.allSound_parent .paragraph (sound_inlineTokens env text)
  | .heading level text, sized => by
      rw [Block.Sized] at sized
      rw [blockToken]
      refine Token.allSound_mk rfl ?_ (fun list => by cases list) (sound_inlineTokens env text)
      intro _ n depth
      have same : (level : Int) = n := Option.some.inj depth
      omega
  | .code text info, _ => by
      unfold blockToken
      refine Token.allSound_mk ?_ (fun heading => by cases heading) (fun list => by cases list)
        Token.every_nil
      cases info <;> rfl
  | .html text, _ => by
      rw [blockToken]
      exact Token.allSound_leaf .blockHtml _
  | .thematicBreak, _ => by
      rw [blockToken]
      exact Token.allSound_parent .thematicBreak Token.every_nil
  | .quote bs, sized => by
      rw [Block.Sized] at sized
      rw [blockToken]
      exact Token.allSound_parent .blockQuote (sound_blockTokens env bs sized)
  | .list start items, sized => by
      rw [Block.Sized] at sized
      unfold blockToken
      refine Token.allSound_mk ?_ (fun heading => by cases heading) ?_ (sound_blockTokens env items sized.2)
      · cases start <;> rfl
      · intro _ n number
        cases start with
        | none => cases number
        | some start =>
            have same : (start : Int) = n := Option.some.inj number
            have short := sized.1 start rfl
            omega
  | .item bs, sized => by
      rw [Block.Sized] at sized
      exact sound_itemToken tasks env (sound_blockTokens env bs sized)
  | .table head body, _ => by
      rw [blockToken]
      refine Token.allSound_parent .table (Token.every_cons_singleton.2 ⟨?_, ?_⟩)
      · exact Token.allSound_parent .tableHead (sound_cellTokens env head)
      · exact Token.allSound_parent .tableBody (sound_rowTokens env body)

/-- The same for a list of blocks. -/
theorem sound_blockTokens (env : ctx.env.Sound) : ∀ bs : List Block, Block.AllSized bs →
    Token.AllSound ctx.env.links (blockTokens ctx tasks bs)
  | [], _ => by
      rw [blockTokens]
      exact Token.every_nil
  | b :: bs, sized => by
      rw [Block.AllSized] at sized
      rw [blockTokens]
      exact Token.every_cons_singleton.2 ⟨sound_blockToken env b sized.1, sound_blockTokens env bs sized.2⟩

end

end

/-! ### Footnotes and documents -/

/-- A document without definitions is sound. -/
theorem Environment.sound_empty : Environment.Sound {} := ⟨by simp, by simp⟩

/-- The blocks of a footnote are sized, and its definitions join those of the document. -/
theorem noteBlocks_sound (rules : Rules) {env : Environment} (sound : env.Sound) (text : List Char) :
    Block.AllSized (noteBlocks rules env text).1 ∧ (noteBlocks rules env text).2.Sound ∧
      env.links ⊆ (noteBlocks rules env text).2.links := by
  unfold noteBlocks
  split
  · exact ⟨⟨trivial, trivial⟩, sound, fun _ mem => mem⟩
  · next body _ =>
      have scan := Scan.sound_run rules env 1 body sound
      exact ⟨scan.blocks, scan.env, Scan.links_subset_run rules env 1 body⟩

/-- The same for the footnotes of a document, one after the other. -/
theorem notesBlocks_sound (rules : Rules) : ∀ (keys : List String) {env : Environment}, env.Sound →
    (∀ note ∈ (notesBlocks rules env keys).1, Block.AllSized note.2) ∧
      (notesBlocks rules env keys).2.Sound ∧ env.links ⊆ (notesBlocks rules env keys).2.links
  | [], env, sound => ⟨by simp [notesBlocks], sound, fun _ mem => mem⟩
  | key :: keys, env, sound => by
      obtain ⟨blocks, next, known⟩ := noteBlocks_sound rules sound ((env.note? key).getD [])
      obtain ⟨rest, last, grown⟩ := notesBlocks_sound rules keys next
      rw [notesBlocks]
      exact ⟨List.forall_mem_cons.2 ⟨blocks, rest⟩, last, fun _ mem => grown (known mem)⟩

/-- The definitions of a document are stored as they should be, and its tokens are sound with them. -/
theorem sound_tokenize (o : Options) (cs : List Char) :
    (tokenize o cs).env.Sound ∧ Token.AllSound (tokenize o cs).env.links (tokenize o cs).tokens := by
  unfold tokenize
  dsimp only
  have scan := Scan.sound_run { tables := o.tables, notes := o.footnotes } {} 0 (normalizeLines cs)
    Environment.sound_empty
  generalize Scan.run { tables := o.tables, notes := o.footnotes } {} 0 (normalizeLines cs) = s at scan ⊢
  have context : (Inline.Context.mk s.env o.strikethrough o.footnotes false).env.Sound := scan.env
  have body := sound_blockTokens o.taskLists context s.blocks scan.blocks
  generalize blockTokens _ o.taskLists s.blocks = ts at body ⊢
  have notes := notesBlocks_sound { tables := o.tables, notes := o.footnotes }
    (Token.noteKeys ts).eraseDups scan.env
  generalize notesBlocks _ s.env (Token.noteKeys ts).eraseDups = outcome at notes ⊢
  obtain ⟨items, last⟩ := outcome
  obtain ⟨sized, env, known⟩ := notes
  refine ⟨env, ?_⟩
  have body := body.mono known
  split
  · exact body
  · refine Token.every_append.2 ⟨body, Token.allSound_parent .footnotes (Token.every_iff_forall_mem.2 ?_)⟩
    intro t mem
    obtain ⟨⟨key, bs⟩, among, rfl⟩ := List.mem_map.1 mem
    have context : (Inline.Context.mk last o.strikethrough o.footnotes false).env.Sound := env
    have inner := sound_blockTokens false context bs (sized _ among)
    exact Token.allSound_mk rfl (fun heading => by cases heading) (fun list => by cases list) inner

end Unmark.Markdown
