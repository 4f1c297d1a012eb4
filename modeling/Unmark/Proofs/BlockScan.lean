import Unmark.Markdown.Container
import Unmark.Proofs.InlineTokens

/-
Module: Unmark.Proofs.BlockScan
Layer: Proofs
Purpose: What a scan of a text into blocks keeps. The rules of the block grammar are many, and each does one
  of a few things to a scan: it emits a block, reads paragraph text, or stores a definition. From these
  steps it follows for every rule, for the containers with all that is scanned within them, and so for a
  scan to its end, that heading levels and list numbers stay short, that each definition is stored under
  the key of its label and no key twice, and that no definition is lost.
Main exports: Block.Sized, Scan.Sound, Scan.Follows, Attempt.From, scanBlocks_follows, Scan.sound_run,
  Scan.links_subset_run
-/

namespace Unmark.Markdown

/-! ### Short numbers -/

namespace Block

mutual

/-- Headings have a level of at most six, and lists start with a number of at most nine digits. -/
def Sized : Block → Prop
  | .heading level _ => level ≤ 6
  | .quote bs => AllSized bs
  | .list start items => (∀ n, start = some n → n < 1000000000) ∧ AllSized items
  | .item bs => AllSized bs
  | _ => True

/-- The same for every block of a list. -/
def AllSized : List Block → Prop
  | [] => True
  | b :: bs => Sized b ∧ AllSized bs

end

theorem allSized_iff_forall_mem {bs : List Block} : AllSized bs ↔ ∀ b ∈ bs, b.Sized := by
  induction bs with
  | nil => simp [AllSized]
  | cons b bs ih => simp [AllSized, ih]

end Block

/-- Every digit is worth less than ten. -/
theorem digitValue_lt (c : Char) : (Text.digitValue? c).getD 0 < 10 := by
  rw [Text.digitValue?]
  cases found : Text.zeros.find? fun z => z ≤ c.toNat && c.toNat < z + 10 with
  | none => simp
  | some z =>
      have within := List.find?_some found
      simp only [Bool.and_eq_true, decide_eq_true_eq] at within
      simp only [Option.map_some, Option.getD_some]
      omega

/-- A number is bounded by the number of its digits. -/
theorem natOfDigits_lt (ds : List Char) : Text.natOfDigits ds < Nat.pow 10 ds.length := by
  have from_left : ∀ (ds : List Char) (n : Nat),
      ds.foldl (fun n d => n * 10 + (Text.digitValue? d).getD 0) n < (n + 1) * 10 ^ ds.length := by
    intro ds
    induction ds with
    | nil => simp
    | cons d ds ih =>
        intro n
        have digit := digitValue_lt d
        calc ds.foldl _ (n * 10 + (Text.digitValue? d).getD 0)
            < (n * 10 + (Text.digitValue? d).getD 0 + 1) * 10 ^ ds.length := ih _
          _ ≤ ((n + 1) * 10) * 10 ^ ds.length := Nat.mul_le_mul_right _ (by omega)
          _ = (n + 1) * 10 ^ (d :: ds).length := by
            rw [List.length_cons, Nat.pow_succ', Nat.mul_assoc]
  have whole := from_left ds 0
  rw [Nat.zero_add, Nat.one_mul] at whole
  exact whole

namespace ItemStart

/-- The start of an item has the mark it is made with. -/
theorem mark_of? {indent : Nat} {mark rest : List Char} {start : ItemStart}
    (starts : of? indent mark rest = some start) : start.mark = mark := by
  unfold of? at starts
  split at starts
  · cases starts
    rfl
  · split at starts
    · cases starts
      rfl
    · cases starts

/-- The number of an item is as short as its mark. -/
theorem number_lt {start : ItemStart} (short : start.mark.dropLast.length ≤ 9) (n : Nat)
    (number : start.number? = some n) : n < 1000000000 := by
  rw [ItemStart.number?] at number
  split at number
  · cases number
  · cases number
    exact Nat.lt_of_lt_of_le (natOfDigits_lt _) (Nat.pow_le_pow_right (by decide) short)

end ItemStart

theorem length_shortDigits_le (cs : List Char) : (shortDigits cs).1.length ≤ 9 := List.length_take_le 9 _

/-- The mark of a list has nine digits at most. -/
theorem mark_short_of_listStart? {line : List Char} {start : ItemStart}
    (found : listStart? line = some start) : start.mark.dropLast.length ≤ 9 := by
  unfold listStart? at found
  dsimp only at found
  split at found
  · split at found
    · rw [ItemStart.mark_of? found]
      simp
    · split at found
      · next digits =>
          split at found
          · have short := length_shortDigits_le (leadingSpaces 3 line).2
            rw [digits] at short
            rwa [ItemStart.mark_of? found, List.dropLast_concat]
          · cases found
      · cases found
  · cases found

/-! ### Steps of a scan -/

/-- A scan whose blocks are sized and whose definitions are stored as they should be. -/
structure Scan.Sound (s : Scan) : Prop where
  found : Block.AllSized s.found
  env : s.env.Sound

/-- A scan that goes on from another one keeps it sound and loses no definition. -/
structure Scan.Follows (s s' : Scan) : Prop where
  sound : s.Sound → s'.Sound
  known : s.env.links ⊆ s'.env.links

/-- What a rule reads at a scan follows it. -/
def Attempt.From (s : Scan) (a : Attempt) : Prop := ∀ s', a = .read s' → s.Follows s'

namespace Scan

variable {s s' s'' : Scan}

theorem Follows.refl (s : Scan) : s.Follows s := ⟨fun sound => sound, fun _ mem => mem⟩

theorem Follows.trans (first : s.Follows s') (second : s'.Follows s'') : s.Follows s'' :=
  ⟨fun sound => second.sound (first.sound sound), fun _ mem => second.known (first.known mem)⟩

/-- Only the blocks and the definitions of a scan matter. -/
theorem Follows.of_eq (found : s'.found = s.found) (env : s'.env = s.env) : s.Follows s' where
  sound sound := ⟨found ▸ sound.found, env ▸ sound.env⟩
  known := by rw [env]; exact fun _ mem => mem

theorem follows_goOn (s : Scan) (ahead : List Char) : s.Follows (s.goOn ahead) := .of_eq rfl rfl

/-- A scan may find more blocks if they are sized. -/
theorem Follows.find (follows : s.Follows s') (env : s''.env = s'.env)
    (found : s.Sound → Block.AllSized s'.found → Block.AllSized s''.found) : s.Follows s'' where
  sound sound := ⟨found sound (follows.sound sound).found, env ▸ (follows.sound sound).env⟩
  known := by
    rw [env]
    exact follows.known

theorem follows_emit {b : Block} (sized : b.Sized) (s : Scan) (ahead : List Char) :
    s.Follows (s.emit b ahead) :=
  (Follows.refl s).find rfl fun _ found => ⟨sized, found⟩

theorem Follows.emit {b : Block} (follows : s.Follows s') (sized : s.Sound → b.Sized)
    (ahead : List Char) : s.Follows (s'.emit b ahead) :=
  follows.find rfl fun sound found => ⟨sized sound, found⟩

theorem Follows.emitBeforeLast {b : Block} (follows : s.Follows s') (sized : s.Sound → b.Sized) :
    s.Follows (s'.emitBeforeLast b) := by
  obtain ⟨ahead, found, env, atLineStart⟩ := s'
  cases found with
  | nil => exact follows.find rfl fun sound found => ⟨sized sound, found⟩
  | cons last earlier => exact follows.find rfl fun sound found => ⟨found.1, sized sound, found.2⟩

theorem Follows.emitAt {b : Block} (follows : s.Follows s') (sized : s.Sound → b.Sized) (count : Nat) :
    s.Follows (s'.emitAt count b) := by
  refine follows.find rfl fun sound found => ?_
  rw [Block.allSized_iff_forall_mem] at found ⊢
  intro b' mem
  rcases List.mem_append.1 mem with mem | mem
  · exact found b' (List.mem_of_mem_take mem)
  · rcases List.mem_cons.1 mem with rfl | mem
    · exact sized sound
    · exact found b' (List.mem_of_mem_drop mem)

theorem Sound.blocks (sound : s.Sound) : Block.AllSized s.blocks := by
  have found := Block.allSized_iff_forall_mem.1 sound.found
  exact Block.allSized_iff_forall_mem.2 fun b mem => found b (List.mem_reverse.1 mem)

/-- What is scanned by itself within a scan starts with its definitions, and hands them back. -/
theorem Follows.within {inner : Scan} {cs : List Char} (follows : s.Follows s')
    (scanned : Follows { ahead := cs, env := s'.env } inner) :
    s.Follows { s' with env := inner.env } ∧ (s.Sound → Block.AllSized inner.blocks) := by
  have start : s.Sound → inner.Sound := fun sound => scanned.sound ⟨trivial, (follows.sound sound).env⟩
  constructor
  · exact ⟨fun sound => ⟨(follows.sound sound).found, (start sound).env⟩,
      fun _ mem => scanned.known (follows.known mem)⟩
  · exact fun sound => (start sound).blocks

theorem follows_readAs (s : Scan) (text ahead : List Char) : s.Follows (s.readAs text ahead) := by
  refine (Follows.refl s).find rfl fun _ found => ?_
  rw [readAs, addParagraph.eq_def]
  split
  · next before earlier is_paragraph =>
      rw [is_paragraph] at found
      exact ⟨trivial, found.2⟩
  · exact ⟨trivial, found⟩

theorem follows_readText (s : Scan) : s.Follows s.readText := follows_readAs s _ _

theorem follows_of_continueParagraph? (found : s.continueParagraph? = some s') : s.Follows s' := by
  unfold continueParagraph? at found
  split at found
  · cases found
    exact follows_readText s
  · cases found

/-- A definition under the key of its label keeps a scan sound. -/
theorem follows_addLink {key : String} {d : Definition} (stored : d.Stored key) (s : Scan)
    (ahead : List Char) : s.Follows { s.goOn ahead with env := s.env.addLink key d } := by
  refine ⟨fun sound => ⟨sound.found, ?_⟩, ?_⟩
  · rw [Environment.addLink]
    split
    · exact sound.env
    · next fresh =>
        refine ⟨List.forall_mem_append.2 ⟨sound.env.stored, List.forall_mem_singleton.2 stored⟩, ?_⟩
        have unused : key ∉ s.env.links.map Prod.fst := by
          intro mem
          obtain ⟨⟨k, d'⟩, among, rfl⟩ := List.mem_map.1 mem
          exact fresh (List.lookup_isSome_iff.2 ⟨_, among, beq_self_eq_true k⟩)
        rw [List.map_append, List.nodup_append]
        refine ⟨sound.env.distinct, by simp, ?_⟩
        intro k mem k' among same
        rw [List.map_singleton, List.mem_singleton] at among
        rw [same, among] at mem
        exact unused mem
  · intro e mem
    rw [Environment.addLink]
    split
    · exact mem
    · exact List.mem_append_left _ mem

/-- Footnotes do not count. -/
theorem follows_addNote (s : Scan) (ahead : List Char) (key : String) (text : List Char) :
    s.Follows { s.goOn ahead with env := s.env.addNote key text } := by
  have links : (s.env.addNote key text).links = s.env.links := by
    rw [Environment.addNote]
    split <;> rfl
  refine ⟨fun sound => ⟨sound.found, ?_⟩, ?_⟩
  · exact ⟨links ▸ sound.env.stored, links ▸ sound.env.distinct⟩
  · rw [links]
    exact fun _ mem => mem

end Scan

namespace Attempt

variable {s : Scan}

@[simp] theorem from_absent : Attempt.From s .absent := fun _ read => by cases read

@[simp] theorem from_refused : Attempt.From s .refused := fun _ read => by cases read

@[simp] theorem from_read {s' : Scan} : Attempt.From s (.read s') ↔ s.Follows s' :=
  ⟨fun follows => follows s' rfl, fun follows _ read => by cases read; exact follows⟩

/-- A list of rules reads what one of them does. -/
theorem from_firstOf {rules : List (Scan → Attempt)} (each : ∀ r ∈ rules, Attempt.From s (r s)) :
    Attempt.From s (firstOf rules s) := by
  induction rules with
  | nil => exact from_absent
  | cons r rules ih =>
      rw [List.forall_mem_cons] at each
      rw [firstOf]
      split
      · exact ih each.2
      · exact each.1

end Attempt

/-! ### Rules without containers -/

section Rules

variable (s : Scan)

theorem from_emit {b : Block} (sized : b.Sized) {ahead : List Char} :
    Attempt.From s (.read (s.emit b ahead)) :=
  Attempt.from_read.2 (Scan.follows_emit sized s ahead)

theorem from_blankLines : (Leaf.blankLines s).From s := by
  unfold Leaf.blankLines
  dsimp only
  split
  · split
    · apply from_emit s
      exact trivial
    · exact Attempt.from_absent
  · exact Attempt.from_absent

theorem from_fencedCode : (Leaf.fencedCode s).From s := by
  unfold Leaf.fencedCode
  split
  · exact Attempt.from_absent
  · split
    · exact Attempt.from_refused
    · apply from_emit s
      exact trivial

theorem from_indentedCode : (Leaf.indentedCode s).From s := by
  unfold Leaf.indentedCode
  dsimp only
  split
  · split
    · next continued => exact Attempt.from_read.2 (Scan.follows_of_continueParagraph? continued)
    · exact Attempt.from_read.2 ((Scan.Follows.refl s).find rfl fun _ found => ⟨trivial, found⟩)
  · exact Attempt.from_absent

theorem from_markedHeading : (Leaf.markedHeading s).From s := by
  unfold Leaf.markedHeading
  dsimp only
  split
  all_goals
    split
    · next allowed =>
        rw [Bool.and_eq_true, Leaf.isHeadingLevel, Bool.and_eq_true, decide_eq_true_eq,
          decide_eq_true_eq] at allowed
        apply from_emit s
        exact allowed.1.2
    · exact Attempt.from_absent

theorem underlineLevel_le {line : List Char} {level : Nat}
    (found : Leaf.underlineLevel? line = some level) : level ≤ 6 := by
  unfold Leaf.underlineLevel? at found
  dsimp only at found
  split at found
  · split at found
    · cases found
      decide
    · cases found
      decide
    · cases found
  · cases found

theorem from_thematicBreak : (Leaf.thematicBreak s).From s := by
  unfold Leaf.thematicBreak
  split
  · apply from_emit s
    exact trivial
  · exact Attempt.from_absent

theorem from_htmlThrough (mark rest : List Char) : (Leaf.htmlThrough mark rest s).From s := by
  unfold Leaf.htmlThrough
  split
  · apply from_emit s
    exact trivial
  · apply from_emit s
    exact trivial

theorem from_htmlToBlank : (Leaf.htmlToBlank s).From s := by
  apply from_emit s
  exact trivial

theorem from_htmlFrom (o : Leaf.Opening) (rest : List Char) : (Leaf.htmlFrom o rest s).From s := by
  unfold Leaf.htmlFrom
  cases o with
  | through mark => exact from_htmlThrough s mark rest
  | closeTag name =>
      dsimp only
      split
      · exact from_htmlToBlank s
      split
      · next continued => exact Attempt.from_read.2 (Scan.follows_of_continueParagraph? continued)
      split
      · exact from_htmlToBlank s
      · exact Attempt.from_refused
  | openTag name =>
      dsimp only
      split
      · exact from_htmlThrough s _ rest
      split
      · exact from_htmlToBlank s
      split
      · next continued => exact Attempt.from_read.2 (Scan.follows_of_continueParagraph? continued)
      split
      · exact from_htmlToBlank s
      · exact Attempt.from_refused

theorem from_htmlBlock : (Leaf.htmlBlock s).From s := by
  unfold Leaf.htmlBlock
  split
  · exact Attempt.from_absent
  · exact from_htmlFrom s _ _

theorem from_interruptingHtml : (Leaf.interruptingHtml s).From s := by
  unfold Leaf.interruptingHtml
  split
  · exact Attempt.from_absent
  · split
    · exact from_htmlFrom s _ _
    all_goals
      split
      · split
        · exact from_htmlFrom s _ []
        · exact from_htmlFrom s _ _
        · split
          · exact from_htmlFrom s _ _
          · exact Attempt.from_absent
      · exact Attempt.from_absent

/-- A table settles as a table or as paragraph text. -/
theorem follows_settle {head delimiters body : List Char} {row? : List Char → Option Row}
    {after : List (List Char)} : s.Follows (Table.settle s (Table.table? head delimiters row? body) after) := by
  unfold Table.settle
  dsimp only
  split
  · next token is_table =>
      have sized : token.Sized := by
        unfold Table.table? at is_table
        dsimp only at is_table
        split at is_table
        · obtain ⟨rows, -, rfl⟩ := Option.map_eq_some_iff.1 is_table
          trivial
        · cases is_table
      exact Scan.follows_emit sized s _
  · exact Scan.follows_readAs s _ _

theorem from_framedTable : (Table.framedTable s).From s := by
  unfold Table.framedTable
  split
  · split
    · split
      · dsimp only
        split
        · exact Attempt.from_absent
        · exact Attempt.from_read.2 (follows_settle s)
      · exact Attempt.from_absent
    · exact Attempt.from_absent
  · exact Attempt.from_absent

theorem from_openTable : (Table.openTable s).From s := by
  unfold Table.openTable
  split
  · split
    · dsimp only
      split
      · exact Attempt.from_read.2 (follows_settle s)
      · exact Attempt.from_absent
    · exact Attempt.from_absent
  · exact Attempt.from_absent

/-- A definition stores its label with it. -/
theorem stored_of_definitionTail? {label cs ahead : List Char} {d : Definition}
    (found : definitionTail? label cs = some (d, ahead)) :
    d.Stored (labelKey (String.ofList label)) := by
  have of_written : ∀ url title, (written (some label) url title).Stored (labelKey (String.ofList label)) :=
    fun url title => ⟨⟨_, rfl, rfl⟩, ⟨_, rfl⟩⟩
  unfold definitionTail? at found
  split at found
  · cases found
  · split at found
    · cases found
      exact of_written _ _
    · obtain ⟨_, _, same⟩ := Option.map_eq_some_iff.1 found
      cases same
      exact of_written _ _

theorem from_linkDefinition : (linkDefinition s).From s := by
  unfold linkDefinition
  split
  · split
    · split
      · next continued => exact Attempt.from_read.2 (Scan.follows_of_continueParagraph? continued)
      · dsimp only
        split
        · exact Attempt.from_refused
        · split
          · exact Attempt.from_refused
          · next tail =>
              exact Attempt.from_read.2 (Scan.follows_addLink (stored_of_definitionTail? tail) s _)
    · exact Attempt.from_absent
  · exact Attempt.from_absent

theorem from_noteDefinition : (noteDefinition s).From s := by
  unfold noteDefinition
  dsimp only
  split
  · split
    · exact Attempt.from_read.2 (Scan.follows_addNote s _ _ _)
    · exact Attempt.from_absent
  · exact Attempt.from_absent

end Rules

/-! ### Containers -/

mutual

/-- A scan to the end of a text follows its start. -/
theorem scanBlocks_follows : ∀ (fuel : Nat) (rules : Rules) (depth : Nat) (s : Scan),
    s.Follows (scanBlocks fuel rules depth s)
  | 0, rules, depth, s => by
      rw [scanBlocks]
      exact Scan.Follows.refl s
  | fuel + 1, rules, depth, s => by
      have as_text := (Scan.follows_readText s).trans (scanBlocks_follows fuel rules depth s.readText)
      unfold scanBlocks
      split
      · exact Scan.Follows.refl s
      · split
        · split
          · next next_scan read =>
              exact (attempt_from fuel rules depth s next_scan read).trans
                (scanBlocks_follows fuel rules depth next_scan)
          · exact as_text
        · exact as_text

/-- The rule that applies at the start of a line. -/
theorem attempt_from : ∀ (fuel : Nat) (rules : Rules) (depth : Nat) (s : Scan),
    (attempt fuel rules depth s).From s
  | 0, rules, depth, s => by
      rw [attempt]
      exact Attempt.from_absent
  | fuel + 1, rules, depth, s => by
      have optional : ∀ {on : Bool} {a : Attempt}, a.From s → Attempt.From s (if on then a else .absent) := by
        intro on a reads
        cases on
        · exact Attempt.from_absent
        · exact reads
      rw [attempt]
      refine Attempt.from_firstOf ?_
      simp only [List.forall_mem_cons, List.not_mem_nil, false_implies, implies_true, and_true]
      exact ⟨from_fencedCode s, from_indentedCode s, from_markedHeading s, underline_from fuel depth s,
        from_thematicBreak s, optional (quote_from fuel depth s), optional (list_from fuel depth s),
        optional (from_noteDefinition s), from_linkDefinition s, from_htmlBlock s, from_blankLines s,
        optional (from_framedTable s), optional (from_openTable s)⟩

/-- An underline makes a heading of level one or two. -/
theorem underline_from : ∀ (fuel : Nat) (depth : Nat) (s : Scan), (underline fuel depth s).From s
  | 0, depth, s => by
      rw [underline]
      exact Attempt.from_absent
  | fuel + 1, depth, s => by
      unfold underline
      split
      · exact Attempt.from_absent
      · next level underlined =>
          split
          · next text earlier is_paragraph =>
              refine Attempt.from_read.2 ((Scan.Follows.refl s).find rfl fun _ found => ?_)
              rw [is_paragraph] at found
              exact ⟨underlineLevel_le underlined, found.2⟩
          · have reads : (Attempt.firstOf [Leaf.thematicBreak, list fuel depth] s).From s := by
              refine Attempt.from_firstOf ?_
              simp only [List.forall_mem_cons, List.not_mem_nil, false_implies, implies_true, and_true]
              exact ⟨from_thematicBreak s, list_from fuel depth s⟩
            split
            · next after read => exact Attempt.from_read.2 (reads after read)
            · exact Attempt.from_refused

/-- A block quote. -/
theorem quote_from : ∀ (fuel : Nat) (depth : Nat) (s : Scan), (quote fuel depth s).From s
  | 0, depth, s => by
      rw [quote]
      exact Attempt.from_absent
  | fuel + 1, depth, s => by
      unfold quote
      dsimp only
      split
      · generalize outcome : (if isStrict (markedContent (takeLine s.ahead).1) then _ else _) = lines
        obtain ⟨text, after, broken⟩ := lines
        have outer : s.Follows after := by
          split at outcome
          · cases outcome
            exact (Scan.follows_goOn s _).trans (Scan.follows_goOn _ _)
          · have further := quoteLines_follows fuel depth false (s.goOn (afterLine s.ahead))
            rw [outcome] at further
            exact (Scan.follows_goOn s _).trans further
        obtain ⟨inner, blocks⟩ := outer.within (scanBlocks_follows fuel
          { quotes := depth + 1 < depthLimit } (depth + 1)
          { ahead := mapLines expandTab (markedContent (takeLine s.ahead).1 ++ '\n' :: text),
            env := after.env })
        have sized : s.Sound → (Block.quote _).Sized := blocks
        refine Attempt.from_read.2 ?_
        split
        · exact inner.emitBeforeLast sized
        · exact inner.emit sized _
      · exact Attempt.from_absent

/-- The further lines of a block quote. -/
theorem quoteLines_follows : ∀ (fuel : Nat) (depth : Nat) (afterBlank : Bool) (s : Scan),
    s.Follows (quoteLines fuel depth afterBlank s).2.1
  | 0, depth, afterBlank, s => by
      rw [quoteLines]
      exact Scan.Follows.refl s
  | fuel + 1, depth, afterBlank, s => by
      unfold quoteLines
      dsimp only
      split
      · exact Scan.Follows.refl s
      · split
        · exact (Scan.follows_goOn s _).trans (quoteLines_follows fuel depth _ _)
        · split
          · exact Scan.Follows.refl s
          · have reads : (Attempt.firstOf [Leaf.blankLines, Leaf.thematicBreak, Leaf.fencedCode,
                list fuel depth, Leaf.interruptingHtml] s).From s := by
              refine Attempt.from_firstOf ?_
              simp only [List.forall_mem_cons, List.not_mem_nil, false_implies, implies_true, and_true]
              exact ⟨from_blankLines s, from_thematicBreak s, from_fencedCode s, list_from fuel depth s,
                from_interruptingHtml s⟩
            split
            · next after read => exact reads after read
            · exact (Scan.follows_goOn s _).trans (quoteLines_follows fuel depth false _)

/-- A list. -/
theorem list_from : ∀ (fuel : Nat) (depth : Nat) (s : Scan), (list fuel depth s).From s
  | 0, depth, s => by
      rw [list]
      exact Attempt.from_absent
  | fuel + 1, depth, s => by
      unfold list
      split
      · exact Attempt.from_absent
      · next start starts =>
          dsimp only
          split
          · next continued =>
              refine Attempt.from_read.2 ?_
              split at continued
              · exact Scan.follows_of_continueParagraph? continued
              · cases continued
          · have further := listItems_follows fuel depth (start.mark.getLastD '-') start
              (s.goOn (afterLine s.ahead))
            have outer := (Scan.follows_goOn s (afterLine s.ahead)).trans further.1
            have sized : s.Sound → (Block.list start.number? (listItems fuel depth
                (start.mark.getLastD '-') start (s.goOn (afterLine s.ahead))).1).Sized :=
              fun sound => ⟨ItemStart.number_lt (mark_short_of_listStart? starts),
                further.2 ((Scan.follows_goOn s (afterLine s.ahead)).sound sound)⟩
            refine Attempt.from_read.2 ?_
            split
            · exact outer.emitAt sized _
            · exact outer.emit sized _

/-- The items of a list. -/
theorem listItems_follows : ∀ (fuel : Nat) (depth : Nat) (bullet : Char) (start : ItemStart) (s : Scan),
    s.Follows (listItems fuel depth bullet start s).2.1 ∧
      (s.Sound → Block.AllSized (listItems fuel depth bullet start s).1)
  | 0, depth, bullet, start, s => by
      rw [listItems]
      exact ⟨Scan.Follows.refl s, fun _ => trivial⟩
  | fuel + 1, depth, bullet, start, s => by
      unfold listItems
      dsimp only
      have outer := itemLines_follows fuel depth bullet (min 3 (start.indent + start.mark.length))
        start.layout.2 start.layout.1.isEmpty false false s
      generalize itemLines fuel depth bullet (min 3 (start.indent + start.mark.length)) start.layout.2
        start.layout.1.isEmpty false false s = lines at outer ⊢
      obtain ⟨source, after, ending⟩ := lines
      obtain ⟨inner, blocks⟩ := outer.within (scanBlocks_follows fuel
        { lists := depth + 1 < depthLimit } (depth + 1)
        { ahead := closeText (start.layout.1 ++ undented start.layout.2 source), env := after.env })
      have item : s.Sound → (Block.item _).Sized := blocks
      cases ending with
      | last => exact ⟨inner, fun sound => ⟨item sound, trivial⟩⟩
      | broken count => exact ⟨inner, fun sound => ⟨item sound, trivial⟩⟩
      | next start =>
          obtain ⟨further, items⟩ := listItems_follows fuel depth bullet start
            { after with env := _ }
          exact ⟨inner.trans further, fun sound => ⟨item sound, items (inner.sound sound)⟩⟩

/-- The further lines of an item. -/
theorem itemLines_follows : ∀ (fuel : Nat) (depth : Nat) (bullet : Char) (lead width : Nat)
    (bare afterBlank hasText : Bool) (s : Scan),
    s.Follows (itemLines fuel depth bullet lead width bare afterBlank hasText s).2.1
  | 0, depth, bullet, lead, width, bare, afterBlank, hasText, s => by
      rw [itemLines]
      exact Scan.Follows.refl s
  | fuel + 1, depth, bullet, lead, width, bare, afterBlank, hasText, s => by
      unfold itemLines
      have within : ∀ (text : List Char) (blank text? : Bool), s.Follows
          (let (more, after, ending) := itemLines fuel depth bullet lead width bare blank (hasText || text?)
            (s.goOn (afterLine s.ahead))
          (text ++ more, after, ending)).2.1 :=
        fun text blank text? => (Scan.follows_goOn s _).trans (itemLines_follows fuel depth bullet lead width
          bare blank (hasText || text?) (s.goOn (afterLine s.ahead)))
      split
      · exact Scan.Follows.refl s
      · dsimp only
        split
        · exact within _ true false
        · have more : s.Follows (if afterBlank then ([], s, ItemEnd.last)
              else
                let (more, after, ending) := itemLines fuel depth bullet lead width bare false
                  (hasText || !(expandTabTo 4 (lineWithEnd s.ahead)).all Text.isSpace)
                  (s.goOn (afterLine s.ahead))
                (expandTabTo 4 (lineWithEnd s.ahead) ++ more, after, ending)).2.1 := by
            split
            · exact Scan.Follows.refl s
            · exact within _ false _
          split
          · split
            · exact Scan.Follows.refl s
            · exact within _ false _
          · split
            · exact more
            · split
              · split
                · next after read => exact from_thematicBreak s after read
                · exact more
              · split
                · exact Scan.follows_goOn s _
                · have reads : (Attempt.firstOf [Leaf.fencedCode, Leaf.markedHeading, quote fuel depth,
                      Leaf.interruptingHtml] s).From s := by
                    refine Attempt.from_firstOf ?_
                    simp only [List.forall_mem_cons, List.not_mem_nil, false_implies, implies_true,
                      and_true]
                    exact ⟨from_fencedCode s, from_markedHeading s, quote_from fuel depth s,
                      from_interruptingHtml s⟩
                  split
                  · next after read => exact reads after read
                  · exact more
                  · split
                    · exact Scan.Follows.refl s
                    · exact more

end

namespace Scan

variable (rules : Rules) (env : Environment) (depth : Nat) (cs : List Char)

/-- A scan of a text with sound definitions is sound. -/
theorem sound_run (sound : env.Sound) : (run rules env depth cs).Sound :=
  (scanBlocks_follows (fuel cs) rules depth { ahead := cs, env }).sound ⟨trivial, sound⟩

/-- A scan of a text keeps the definitions that it starts with. -/
theorem links_subset_run : env.links ⊆ (run rules env depth cs).env.links :=
  (scanBlocks_follows (fuel cs) rules depth { ahead := cs, env }).known

end Scan

end Unmark.Markdown
