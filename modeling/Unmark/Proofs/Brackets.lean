import Unmark.Tree.Build
import Unmark.Proofs.PrintedChars

/-
Module: Unmark.Proofs.Brackets
Layer: Proofs
Purpose: The brackets of a rendering. When none comes in through a text, the output is a word of a small grammar,
  `Marked`: other characters, links as `[...](url)` and struck-through text as `(...)`, inside each other to any
  depth. Siblings come to words one after the other (`Marked.append`), a marked node to one around that of its
  children. What the words of the grammar have in common is shown of them: they are well nested, their brackets
  are as many as the marked nodes, and the two pairs of a link stand side by side.
Main exports: WellNested, Followed, Marked, Marked.append, Marked.wellNested, Marked.count_eq, Marked.followed,
  marked_textOf, render_brackets
-/

namespace Unmark.PlainText

/-! ### Bracket words -/

/-- The opening brackets with their closing ones. -/
def bracketPairs : List (Char × Char) := [('[', ']'), ('(', ')')]

theorem square_mem : ('[', ']') ∈ bracketPairs := by decide

theorem round_mem : ('(', ')') ∈ bracketPairs := by decide

/-- A word in which every bracket has its partner, and what stands between the two is such a word again. -/
inductive WellNested : List Char → Prop where
  | nil : WellNested []
  | plain {c : Char} {cs : List Char} (other : c ∉ brackets) (rest : WellNested cs) : WellNested (c :: cs)
  | pair {opener closer : Char} {between cs : List Char} (partners : (opener, closer) ∈ bracketPairs)
      (within : WellNested between) (rest : WellNested cs) : WellNested (opener :: between ++ closer :: cs)

theorem wellNested_of_plain {cs : List Char} (other : ∀ c ∈ cs, c ∉ brackets) : WellNested cs := by
  induction cs with
  | nil => exact .nil
  | cons c cs ih =>
      obtain ⟨first, others⟩ := List.forall_mem_cons.1 other
      exact .plain first (ih others)

/-- A word in which a closing square bracket is always followed by an opening round one. -/
def Followed (cs : List Char) : Prop := ∀ i, cs[i]? = some ']' → cs[i + 1]? = some '('

theorem followed_cons {c : Char} {cs : List Char} :
    Followed (c :: cs) ↔ (c = ']' → cs[0]? = some '(') ∧ Followed cs := by
  constructor
  · intro followed
    exact ⟨fun closer => followed 0 (congrArg some closer), fun i => followed (i + 1)⟩
  · rintro ⟨first, rest⟩ (_ | i) closer
    · exact first (Option.some.inj closer)
    · exact rest i closer

theorem Followed.cons_of_ne {c : Char} {cs : List Char} (other : c ≠ ']') (rest : Followed cs) :
    Followed (c :: cs) :=
  followed_cons.2 ⟨fun closer => absurd closer other, rest⟩

theorem Followed.append {cs ds : List Char} (first : Followed cs) (second : Followed ds) :
    Followed (cs ++ ds) := by
  induction cs with
  | nil => exact second
  | cons c cs ih =>
      obtain ⟨here, rest⟩ := followed_cons.1 first
      refine followed_cons.2 ⟨fun closer => ?_, ih rest⟩
      have opener := here closer
      cases cs with
      | nil => cases opener
      | cons d cs => exact opener

theorem followed_of_plain {cs : List Char} (other : ∀ c ∈ cs, c ∉ brackets) : Followed cs := by
  intro i closer
  exact absurd (by decide) (other ']' (List.mem_of_getElem? closer))

theorem count_of_plain {cs : List Char} (other : ∀ c ∈ cs, c ∉ brackets) {b : Char} (bracket : b ∈ brackets) :
    cs.count b = 0 :=
  List.count_eq_zero.2 fun mem => other b mem bracket

/-! ### The grammar of renderings -/

/-- The words that renderings are made of, with the number of links and that of struck-through texts. -/
inductive Marked : Nat → Nat → List Char → Prop where
  | nil : Marked 0 0 []
  | plain {c : Char} {l s : Nat} {cs : List Char} (other : c ∉ brackets) (rest : Marked l s cs) :
      Marked l s (c :: cs)
  | link {l s l' s' : Nat} {between url cs : List Char} (within : Marked l s between)
      (other : ∀ c ∈ url, c ∉ brackets) (rest : Marked l' s' cs) :
      Marked (l + 1 + l') (s + s') ('[' :: between ++ ']' :: '(' :: url ++ ')' :: cs)
  | struck {l s l' s' : Nat} {between cs : List Char} (within : Marked l s between) (rest : Marked l' s' cs) :
      Marked (l + l') (s + 1 + s') ('(' :: between ++ ')' :: cs)

namespace Marked

variable {l s l' s' : Nat} {cs ds : List Char}

theorem append (first : Marked l s cs) (second : Marked l' s' ds) : Marked (l + l') (s + s') (cs ++ ds) := by
  induction first with
  | nil => simpa using second
  | plain other _ ih => exact .plain other ih
  | link within other _ _ ih => simpa [Nat.add_assoc] using within.link other ih
  | struck within _ _ ih => simpa [Nat.add_assoc] using within.struck ih

theorem plain_append (other : ∀ c ∈ cs, c ∉ brackets) (rest : Marked l s ds) : Marked l s (cs ++ ds) := by
  induction cs with
  | nil => exact rest
  | cons c cs ih =>
      obtain ⟨first, others⟩ := List.forall_mem_cons.1 other
      exact .plain first (ih others)

theorem wellNested (word : Marked l s cs) : WellNested cs := by
  induction word with
  | nil => exact .nil
  | plain other _ ih => exact .plain other ih
  | link _ other _ within rest =>
      simpa using WellNested.pair square_mem within (.pair round_mem (wellNested_of_plain other) rest)
  | struck _ _ within rest => exact .pair round_mem within rest

theorem followed (word : Marked l s cs) : Followed cs := by
  induction word with
  | nil => exact followed_of_plain (by simp)
  | plain other _ ih =>
      refine ih.cons_of_ne ?_
      rintro rfl
      exact other (by decide)
  | @link l s l' s' between url cs _ other _ within rest =>
      have tail : Followed ('(' :: (url ++ ')' :: cs)) :=
        ((followed_of_plain other).append (rest.cons_of_ne (by decide))).cons_of_ne (by decide)
      have behind : Followed (']' :: '(' :: (url ++ ')' :: cs)) := followed_cons.2 ⟨fun _ => rfl, tail⟩
      simpa using (within.append behind).cons_of_ne (c := '[') (by decide)
  | struck _ _ within rest => exact (within.append (rest.cons_of_ne (by decide))).cons_of_ne (by decide)

/-- Square brackets are there once for every link, round ones once for every link and every struck-through
    text. -/
theorem count_eq (word : Marked l s cs) :
    cs.count '[' = l ∧ cs.count ']' = l ∧ cs.count '(' = l + s ∧ cs.count ')' = l + s := by
  induction word with
  | nil => decide
  | plain other _ ih => simp_all [brackets]
  | link _ other _ within rest =>
      have absent : ∀ b ∈ brackets, List.count b _ = 0 := fun b => count_of_plain other
      simp only [brackets, List.forall_mem_cons] at absent
      simp [within, rest, absent]
      omega
  | struck _ _ within rest =>
      simp [within, rest]
      omega

end Marked

/-! ### The words of trees -/

open Node Text

/-- The number of links among some nodes. -/
def linkCount (ns : List Node) : Nat := ns.countP fun n => n.kind = .tag .link

/-- The number of struck-through texts among some nodes. -/
def struckCount (ns : List Node) : Nat := ns.countP fun n => n.kind = .tag .strikethrough

mutual

/-- A node comes to a word with the brackets of its own tree. -/
theorem marked_textOf {o : Options} (separator : Avoids o.blockSeparator brackets)
    (phrase : Avoids o.strikethroughPhrase brackets) :
    ∀ n : Node, (∀ m ∈ n :: n.descendants, Avoids m.ownText brackets) →
      Marked (linkCount (n :: n.descendants)) (struckCount (n :: n.descendants)) (chars (textOf o n))
  | .mk k p md cs, own => by
      obtain ⟨here, below⟩ := List.forall_mem_cons.1 own
      rw [descendants] at below
      have within : Marked (linkCount (descendantsIn cs)) (struckCount (descendantsIn cs))
        (charsBelow o (.mk k p md cs)) := marked_bodyFrom separator phrase k none cs below
      by_cases link : k = .tag .link
      · subst link
        rw [chars_textOf_link o rfl]
        simpa [linkCount, struckCount, descendants] using within.link here .nil
      · by_cases struck : k = .tag .strikethrough
        · subst struck
          rw [chars_textOf_struck o rfl]
          simpa [linkCount, struckCount, descendants] using (within.plain_append phrase).struck .nil
        · rw [chars_textOf_unmarked (n := .mk k p md cs) o link struck]
          simpa [linkCount, struckCount, descendants, link, struck] using within.plain_append here

/-- Siblings come to the words of their trees one after the other, with separators between some of them. -/
theorem marked_bodyFrom {o : Options} (separator : Avoids o.blockSeparator brackets)
    (phrase : Avoids o.strikethroughPhrase brackets) (parent : Kind) :
    ∀ (left : Option Kind) (ns : List Node), (∀ m ∈ descendantsIn ns, Avoids m.ownText brackets) →
      Marked (linkCount (descendantsIn ns)) (struckCount (descendantsIn ns)) (chars (bodyFrom o parent left ns))
  | _, [], _ => .nil
  | left, n :: ns, own => by
      rw [descendantsIn, ← List.cons_append] at own ⊢
      obtain ⟨first, rest⟩ := List.forall_mem_append.1 own
      have word := (marked_textOf separator phrase n first).append
        (marked_bodyFrom separator phrase parent (some n.kind) ns rest)
      simp only [bodyFrom, chars_append, List.append_assoc, chars_gapAfter, linkCount, struckCount,
        List.countP_append]
      split
      · exact word.plain_append separator
      · exact word

end

/-- When no bracket comes in through the separator, the phrase or the texts of the nodes, the brackets of a
    rendering are well nested; there is one pair of square ones for every link below the root, and one pair of
    round ones for every link and every struck-through text; and every closing square bracket is followed at once
    by an opening round one. -/
theorem render_brackets {o : Options} {tree : Node} {text : String} (rendered : (render o tree).text = .ok text)
    (separator : Avoids o.blockSeparator brackets) (phrase : Avoids o.strikethroughPhrase brackets)
    (own : ∀ n ∈ tree.descendants, Avoids n.ownText brackets) :
    WellNested text.toList ∧
      text.toList.count '[' = linkCount tree.descendants ∧
      text.toList.count ']' = linkCount tree.descendants ∧
      text.toList.count '(' = linkCount tree.descendants + struckCount tree.descendants ∧
      text.toList.count ')' = linkCount tree.descendants + struckCount tree.descendants ∧
      ∀ i, text.toList[i]? = some ']' → text.toList[i + 1]? = some '(' := by
  obtain ⟨k, p, md, cs⟩ := tree
  rw [Node.descendants] at own ⊢
  have word := marked_bodyFrom separator phrase k none cs own
  rw [toList_of_render rendered]
  obtain ⟨left, right, left', right'⟩ := word.count_eq
  exact ⟨word.wellNested, left, right, left', right', word.followed⟩

/-- A link without text in a node of a foreign kind, within a link, within struck-through text. -/
theorem render_brackets_nested :
    let aside := Node.mk (Kind.ofName "aside") {} [] [Build.link (some "v") none []]
    let struck := Build.strikethrough [Build.text "a", Build.link (some "u") none [Build.text "b", aside]]
    let document := Build.root [Build.paragraph [struck], Build.paragraph [Build.text "c"]] []
    let text := "(strikethrough: a[b[](v)](u))\nc"
    (render {} document).text = .ok text ∧
      linkCount document.descendants = 2 ∧ struckCount document.descendants = 1 ∧
      WellNested text.toList ∧
      text.toList.count '[' = linkCount document.descendants ∧
      text.toList.count ']' = linkCount document.descendants ∧
      text.toList.count '(' = linkCount document.descendants + struckCount document.descendants ∧
      text.toList.count ')' = linkCount document.descendants + struckCount document.descendants ∧
      ∀ i, text.toList[i]? = some ']' → text.toList[i + 1]? = some '(' := by
  intro aside struck document text
  have rendered : (render {} document).text = .ok text := rfl
  exact ⟨rendered, rfl, rfl, render_brackets rendered (by decide) (by decide) (by decide)⟩

end Unmark.PlainText
