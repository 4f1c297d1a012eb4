import Unmark.Proofs.TokenText

/-
Module: Unmark.Proofs.PhraseRuns
Layer: Proofs
Purpose: How inline tokens are taken one by one (`Token.Taken`): a token goes on with the run of text in front
  of it, ends the run with a node of its own, or is dropped. So the nodes of two lists of tokens are put
  together by joining the texts at the seam, no two texts are ever neighbours, and a token whose type is
  not supported does not end a run. Below an image the types are not looked at: there such a token counts
  as the tokens below it do.
Main exports: Node.joined, Node.Apart, Token.Unsupported, Token.Taken, Token.taken, phrases_append,
  apart_phrasesFrom, Token.Swapped, phrases_swapped, phrases_runs
-/

namespace Unmark

/-! ### Neighbouring texts -/

namespace Node

/-- The text of a node that is a text. -/
def text? (n : Node) : Option String :=
  if n.kind = .tag .text then some (n.payload.value.getD "") else none

/-- Two lists of nodes one behind the other. When the first ends with a text and the second starts with a
    text, these become one. -/
def joined (ns ms : List Node) : List Node :=
  match ns.getLast?.bind text?, ms.head?.bind text? with
  | some s, some s' => ns.dropLast ++ Build.text (s ++ s') :: ms.tail
  | _, _ => ns ++ ms

/-- No two neighbours are texts. -/
def Apart (ns : List Node) : Prop := ns.IsChain fun n m => ¬(n.kind = .tag .text ∧ m.kind = .tag .text)

@[simp] theorem text?_text (s : String) : text? (Build.text s) = some s := rfl

theorem kind_node_ne_text {t : Tag} (other : t ≠ .text) (payload : Payload) (cs : List Node) :
    (Build.node t payload cs).kind ≠ .tag .text := by
  intro same
  exact other (Kind.tag.inj same)

theorem text?_node {t : Tag} (other : t ≠ .text) (payload : Payload) (cs : List Node) :
    text? (Build.node t payload cs) = none :=
  if_neg (kind_node_ne_text other payload cs)

/-- A list that ends with something else than a text is only put in front. -/
theorem joined_of_end {ns ms : List Node} (ends : ns.getLast?.bind text? = none) : joined ns ms = ns ++ ms := by
  rw [joined, ends]

theorem joined_of_start {ns ms : List Node} (starts : ms.head?.bind text? = none) :
    joined ns ms = ns ++ ms := by
  rw [joined, starts]
  split
  · next absurd_some => cases absurd_some
  · rfl

/-- What stands in front of a node that is no text does not see the seam. -/
theorem joined_behind {n : Node} (other : n.text? = none) (front ns ms : List Node) :
    joined (front ++ n :: ns) ms = front ++ n :: joined ns ms := by
  cases ns with
  | nil =>
      rw [joined_of_end, joined_of_end rfl, List.append_assoc]
      · rfl
      · rw [List.getLast?_concat, Option.bind_some, other]
  | cons m ns =>
      have last : (front ++ n :: m :: ns).getLast? = (m :: ns).getLast? := by
        rw [List.getLast?_append_cons, List.getLast?_cons_cons]
      have init : (front ++ n :: m :: ns).dropLast = front ++ n :: (m :: ns).dropLast := by simp
      rw [joined, joined, last, init]
      split
      · rw [List.append_assoc, List.cons_append]
      · rw [List.append_assoc, List.cons_append]

theorem joined_text_text (s s' : String) (ms : List Node) :
    joined [Build.text s] (Build.text s' :: ms) = Build.text (s ++ s') :: ms := rfl

/-- A text in front of a joined list is joined with its start. -/
theorem joined_text_joined (s s' : String) (ms : List Node) :
    joined [Build.text s] (joined [Build.text s'] ms) = joined [Build.text (s ++ s')] ms := by
  cases ms with
  | nil => rfl
  | cons m ms =>
      cases start : m.text? with
      | none =>
          have starts : (m :: ms).head?.bind text? = none := start
          rw [joined_of_start starts, joined_of_start starts]
          rfl
      | some v =>
          have found : ∀ s, joined [Build.text s] (m :: ms) = Build.text (s ++ v) :: ms := by
            intro s
            simp [joined, start]
          rw [found, found, joined_text_text, String.append_assoc]

end Node

namespace Markdown

open Node

/-! ### One token -/

namespace Token

/-- The type of a token has no place among phrases. -/
def Unsupported (t : Token) : Prop := Place.below .phrases t.type = none

/-- What a token does to the run of text in front of it. -/
inductive Taken (t : Token) : Prop where
  | longer (s : String) (reads : ∀ run ts, phrasesFrom run (t :: ts) = phrasesFrom (extend run s) ts)
  | ended (tag : Tag) (payload : Payload) (ns : List Node) (own : tag ≠ .text)
      (below : ns = [] ∨ ns = phrases t.children)
      (reads : ∀ run ts, phrasesFrom run (t :: ts) =
        release run ++ Build.node tag payload ns :: phrasesFrom none ts)
  | dropped (reads : ∀ run ts, phrasesFrom run (t :: ts) = phrasesFrom run ts)

theorem Unsupported.reads {t : Token} (h : t.Unsupported) (run : Option String) (ts : List Token) :
    phrasesFrom run (t :: ts) = phrasesFrom run ts := by
  obtain ⟨t, raw, attrs, reference, label, cs⟩ := t
  cases t
  case text | softBreak | lineBreak | strong | emphasis | strikethrough | codeSpan | link | image | inlineHtml
    | footnoteRef => cases h
  all_goals simp only [phrasesFrom]

/-- Every token does one of the three. -/
theorem taken (t : Token) : t.Taken := by
  obtain ⟨t, raw, attrs, reference, label, cs⟩ := t
  cases t
  case text =>
    refine .longer (Entity.decode (raw.getD "")) fun run ts => ?_
    rw [phrasesFrom]
  case softBreak =>
    refine .longer "\n" fun run ts => ?_
    rw [phrasesFrom]
  case strong | emphasis | strikethrough =>
    refine .ended _ _ _ ?_ (.inr rfl) fun run ts => by rw [phrasesFrom]; rfl
    decide
  case lineBreak | codeSpan | inlineHtml | footnoteRef =>
    refine .ended _ _ _ ?_ (.inl rfl) fun run ts => by rw [phrasesFrom]; rfl
    decide
  case link =>
    cases reference <;> refine .ended _ _ _ ?_ (.inr rfl) fun run ts => by rw [phrasesFrom]; rfl
    · decide
    · decide
  case image =>
    cases reference <;> refine .ended _ _ _ ?_ (.inl rfl) fun run ts => by rw [phrasesFrom]; rfl
    · decide
    · decide
  all_goals exact .dropped (Unsupported.reads rfl)

end Token

/-! ### Lists of tokens -/

/-- Tokens behind a run are the tokens by themselves, with the run joined to their start. -/
theorem phrasesFrom_eq_joined (run : Option String) (ts : List Token) :
    phrasesFrom run ts = joined (release run) (phrases ts) := by
  induction ts generalizing run with
  | nil =>
      have empty : phrases [] = [] := by rw [phrases, phrasesFrom, release]
      rw [phrasesFrom, empty, joined_of_start rfl, List.append_nil]
  | cons t ts ih =>
      rcases t.taken with ⟨s, reads⟩ | ⟨tag, payload, ns, own, -, reads⟩ | ⟨reads⟩
      · -- The text of the token is joined to what follows first, and then the run to both.
        rw [phrases, reads, reads, ih, ih (extend none s)]
        cases run with
        | none => rfl
        | some r =>
            have whole : extend none s = some s := congrArg some String.empty_append
            rw [whole]
            exact (joined_text_joined r s (phrases ts)).symm
      · have starts : (Build.node tag payload ns :: phrasesFrom none ts).head?.bind text? = none :=
          text?_node own payload ns
        rw [phrases, reads, reads, release, List.nil_append, joined_of_start starts]
      · rw [phrases, reads, reads, ih]
        rfl

theorem phrasesFrom_append (run : Option String) (a b : List Token) :
    phrasesFrom run (a ++ b) = joined (phrasesFrom run a) (phrases b) := by
  induction a generalizing run with
  | nil => rw [List.nil_append, phrasesFrom_eq_joined, phrasesFrom]
  | cons t a ih =>
      rw [List.cons_append]
      rcases t.taken with ⟨s, reads⟩ | ⟨tag, payload, ns, own, -, reads⟩ | ⟨reads⟩
      · rw [reads, reads, ih]
      · rw [reads, reads, ih, joined_behind (text?_node own payload ns)]
      · rw [reads, reads, ih]

/-- The nodes of two lists of tokens are the nodes of each, joined at the seam. -/
theorem phrases_append (a b : List Token) : phrases (a ++ b) = joined (phrases a) (phrases b) :=
  phrasesFrom_append none a b

theorem phrases_cons (t : Token) (ts : List Token) : phrases (t :: ts) = joined (phrases [t]) (phrases ts) :=
  phrases_append [t] ts

/-! ### No neighbouring texts -/

theorem apart_release_append {n : Node} (other : n.kind ≠ .tag .text) (run : Option String) {ns : List Node}
    (rest : Apart ns) : Apart (release run ++ n :: ns) := by
  have behind : Apart (n :: ns) := by
    refine List.isChain_cons.2 ⟨?_, rest⟩
    rintro m - ⟨same, -⟩
    exact other same
  cases run with
  | none => exact behind
  | some s =>
      refine List.isChain_cons_cons.2 ⟨?_, behind⟩
      rintro ⟨-, same⟩
      exact other same

theorem apart_phrasesFrom (run : Option String) (ts : List Token) : Apart (phrasesFrom run ts) := by
  induction ts generalizing run with
  | nil =>
      rw [phrasesFrom]
      cases run with
      | none => exact List.isChain_nil
      | some s => exact List.isChain_singleton _
  | cons t ts ih =>
      rcases t.taken with ⟨s, reads⟩ | ⟨tag, payload, ns, own, -, reads⟩ | ⟨reads⟩
      · rw [reads]
        exact ih _
      · rw [reads]
        exact apart_release_append (kind_node_ne_text own payload ns) run (ih none)
      · rw [reads]
        exact ih run

/-- Below the nodes of inline tokens no two neighbours are texts either. -/
theorem apart_below_phrasesFrom : ∀ (run : Option String) (ts : List Token),
    EveryIn (fun n => Apart n.children) (phrasesFrom run ts)
  | run, [] => by
      rw [phrasesFrom]
      exact everyIn_release (fun _ => List.isChain_nil) run
  | run, .mk t raw attrs reference label cs :: ts => by
      have inner := apart_below_phrasesFrom none cs
      have after := fun run' => apart_below_phrasesFrom run' ts
      rcases Token.taken (.mk t raw attrs reference label cs) with
        ⟨s, reads⟩ | ⟨tag, payload, ns, -, below, reads⟩ | ⟨reads⟩
      · rw [reads]
        exact after _
      · have children : Apart ns ∧ EveryIn (fun n => Apart n.children) ns := by
          rcases below with rfl | rfl
          · exact ⟨List.isChain_nil, everyIn_nil⟩
          · exact ⟨apart_phrasesFrom none cs, inner⟩
        rw [reads, everyIn_append, everyIn_cons, every_iff]
        exact ⟨everyIn_release (fun _ => List.isChain_nil) run, children, after none⟩
      · rw [reads]
        exact after run

/-! ### Tokens in the place of others -/

/-- Two lists of tokens differ in one place only, where the one has `xs` and the other `ys`. The place is in
    the lists themselves or below one of their tokens, and `pictured` says whether it is below an image. -/
inductive Token.Swapped (xs ys : List Token) : Bool → List Token → List Token → Prop where
  | here (front back : List Token) : Swapped xs ys false (front ++ xs ++ back) (front ++ ys ++ back)
  | inside {pictured : Bool} {cs cs' : List Token} (front back : List Token) (t : TokenType)
      (raw : Option String) (attrs : Fields) (reference label : Option Data)
      (inner : Swapped xs ys pictured cs cs') :
      Swapped xs ys (pictured || t == .image) (front ++ .mk t raw attrs reference label cs :: back)
        (front ++ .mk t raw attrs reference label cs' :: back)

section Swapped

variable {xs ys ts ts' : List Token} {pictured : Bool}

theorem Token.flattenAll_cons (t : Token) (ts : List Token) :
    flattenAll (t :: ts) = flattenAll [t] ++ flattenAll ts := by
  obtain ⟨t, raw, attrs, reference, label, cs⟩ := t
  cases t
  all_goals simp [flattenAll]

theorem Token.flattenAll_append (a b : List Token) : flattenAll (a ++ b) = flattenAll a ++ flattenAll b := by
  induction a with
  | nil => rw [List.nil_append, flattenAll, List.nil_append]
  | cons t a ih => rw [List.cons_append, flattenAll_cons, ih, flattenAll_cons t a, List.append_assoc]

theorem Token.flattenAll_singleton_congr {t : TokenType} {raw : Option String} {attrs : Fields}
    {reference label : Option Data} {cs cs' : List Token} (text : flattenAll cs = flattenAll cs') :
    flattenAll [.mk t raw attrs reference label cs] = flattenAll [.mk t raw attrs reference label cs'] := by
  cases t
  all_goals simp [flattenAll, text]

/-- Where types are not looked at, a token of an unsupported type says what the tokens below it say. -/
theorem Token.Unsupported.flattenAll_eq {t : Token} (h : t.Unsupported) :
    flattenAll [t] = flattenAll t.children := by
  obtain ⟨t, raw, attrs, reference, label, cs⟩ := t
  cases t
  case text | softBreak | lineBreak | strong | emphasis | strikethrough | codeSpan | link | image | inlineHtml
    | footnoteRef => cases h
  all_goals simp [flattenAll, children]

/-- Tokens of the same text in the place of others do not change the text around them. -/
theorem Token.Swapped.flattenAll_eq (swapped : Token.Swapped xs ys pictured ts ts')
    (text : flattenAll xs = flattenAll ys) : flattenAll ts = flattenAll ts' := by
  induction swapped with
  | here front back => simp only [flattenAll_append, text]
  | inside front back t raw attrs reference label inner ih =>
      rw [flattenAll_append, flattenAll_append, flattenAll_cons, flattenAll_cons _ back,
        flattenAll_singleton_congr ih]

theorem phrases_singleton_congr {t : TokenType} {raw : Option String} {attrs : Fields}
    {reference label : Option Data} {cs cs' : List Token} (nodes : t ≠ .image → phrases cs = phrases cs')
    (text : t = .image → Token.flattenAll cs = Token.flattenAll cs') :
    phrases [.mk t raw attrs reference label cs] = phrases [.mk t raw attrs reference label cs'] := by
  have inner : t ≠ .image → phrasesFrom none cs = phrasesFrom none cs' := nodes
  have alt : t = .image → Token.flatten cs = Token.flatten cs' := fun image => congrArg String.ofList (text image)
  rw [phrases, phrases]
  cases t
  case strong | emphasis | strikethrough => simp only [phrasesFrom, inner (by decide)]
  case link => cases reference <;> simp only [phrasesFrom, inner (by decide)]
  case image => cases reference <;> simp only [phrasesFrom, alt]
  all_goals simp only [phrasesFrom]

/-- Tokens in the place of others do not change the nodes if they become the same nodes and the place is not
    below an image, or have the same text and the place is below an image. -/
theorem phrases_swapped (swapped : Token.Swapped xs ys pictured ts ts')
    (nodes : pictured = false → phrases xs = phrases ys)
    (text : pictured = true → Token.flattenAll xs = Token.flattenAll ys) : phrases ts = phrases ts' := by
  induction swapped with
  | here front back => simp only [phrases_append, nodes rfl]
  | @inside pictured cs cs' front back t raw attrs reference label inner ih =>
      have same : phrases [.mk t raw attrs reference label cs] =
          phrases [.mk t raw attrs reference label cs'] := by
        apply phrases_singleton_congr
        -- Below another token than an image the place is below an image as before.
        · intro other
          have outside : (t == .image) = false := beq_false_of_ne other
          rw [outside, Bool.or_false] at nodes text
          exact ih nodes text
        -- Below an image only the text counts, whatever stands between.
        · rintro rfl
          exact inner.flattenAll_eq (text (Bool.or_true pictured))
      rw [phrases_append, phrases_append, phrases_cons, phrases_cons _ back, same]

end Swapped

/-- A text below a token of an unsupported type. -/
def marked : Token := .parent (.other "mark") [.leaf .text "x"]

/-- Put below an image, such a token adds its text to the text that stands for the image. -/
theorem unsupported_below_image : ¬∀ (u : Token) (pictured : Bool) (ts ts' : List Token), u.Unsupported →
    Token.Swapped [] [u] pictured ts ts' → phrases ts' = phrases ts := by
  intro unchanged
  have inserted : Token.Swapped [] [marked] true [.parent .image []] [.parent .image [marked]] :=
    .inside [] [] .image none [] none none (.here [] [])
  have same := congrArg (List.map fun n => n.payload.alt) (unchanged marked true _ _ rfl inserted)
  have before : (phrases [.parent .image []]).map (fun n => n.payload.alt) = [some ""] := by cbv
  have after : (phrases [.parent .image [marked]]).map (fun n => n.payload.alt) = [some "x"] := by cbv
  rw [before, after] at same
  exact absurd same (by decide)

/-- The nodes of two lists of inline tokens are the nodes of each, joined at the seam. In all nodes of inline
    tokens, at every depth, no two neighbours are texts. A token of an unsupported type that is put into a
    list of tokens, at any depth, does not change the nodes, unless it is put below an image and has text below
    itself; below an image it counts as the tokens below it do. -/
theorem phrases_runs (a b : List Token) :
    phrases (a ++ b) = joined (phrases a) (phrases b) ∧
    Apart (phrases a) ∧ EveryIn (fun n => Apart n.children) (phrases a) ∧
    ∀ (u : Token) (pictured : Bool) (ts : List Token), u.Unsupported →
      (Token.Swapped [] [u] pictured a ts → (pictured = true → Token.flatten u.children = "") →
        phrases ts = phrases a) ∧
      (Token.Swapped u.children [u] true a ts → phrases ts = phrases a) := by
  refine ⟨phrases_append a b, apart_phrasesFrom none a, apart_below_phrasesFrom none a, ?_⟩
  intro u pictured ts unsupported
  have nodes : phrases [] = phrases [u] := (unsupported.reads none []).symm
  constructor
  · intro swapped silent
    refine (phrases_swapped swapped (fun _ => nodes) ?_).symm
    intro below_image
    rw [unsupported.flattenAll_eq, Token.flattenAll]
    exact (String.ofList_eq_empty_iff.1 (silent below_image)).symm
  · intro swapped
    exact (phrases_swapped swapped (by simp) fun _ => unsupported.flattenAll_eq.symm).symm

/-- A token of an unsupported type in strong text, a silent one below an image, and one with text there. -/
theorem phrases_runs_marked :
    phrases [.parent .strong [.leaf .text "a", marked, .leaf .softBreak "\n"]] =
      phrases [.parent .strong [.leaf .text "a", .leaf .softBreak "\n"]] ∧
    phrases [.parent .image [.leaf (.other "mark") "x"]] = phrases [.parent .image []] ∧
    phrases [.parent .image [marked]] = phrases [.parent .image [.leaf .text "x"]] := by
  refine ⟨?_, ?_, ?_⟩
  · obtain ⟨-, -, -, inserted⟩ :=
      phrases_runs [.parent .strong [.leaf .text "a", .leaf .softBreak "\n"]] []
    refine (inserted marked false _ rfl).1 ?_ (by decide)
    exact .inside [] [] .strong none [] none none (.here [.leaf .text "a"] [.leaf .softBreak "\n"])
  · obtain ⟨-, -, -, inserted⟩ := phrases_runs [.parent .image []] []
    refine (inserted (.leaf (.other "mark") "x") true _ rfl).1 ?_ (fun _ => by cbv)
    exact .inside [] [] .image none [] none none (.here [] [])
  · obtain ⟨-, -, -, inserted⟩ := phrases_runs [.parent .image [.leaf .text "x"]] []
    refine (inserted marked true _ rfl).2 ?_
    exact .inside [] [] .image none [] none none (.here [] [])

end Markdown

end Unmark
