import Unmark.Proofs.PhraseRuns

/-
Module: Unmark.Proofs.PhraseText
Layer: Proofs
Purpose: Two ways to read the text off inline tokens. One flattens the tokens themselves, as it is done for the
  text that stands for an image; the other turns them into nodes first and reads these (`Node.plain`).
  Joining the texts at a seam does not change what is read (`plainAll_joined`), so it is enough to look at
  one token at a time.
Main exports: Node.plain, Node.plainText, plainAll_joined, flatten_eq_plainText
-/

namespace Unmark

namespace Node

mutual

/-- The text that is read off a node. A node says its own text, a line break is a line feed, an image is the
    text that stands for it, source in another language and references to footnotes say nothing, and all
    other nodes say what their children say. -/
def plain : Node → List Char
  | mk k p _ cs =>
    match k with
    | .tag .text | .tag .inlineCode => (p.value.getD "").toList
    | .tag .lineBreak => ['\n']
    | .tag .image | .tag .imageReference => (p.alt.getD "").toList
    | .tag .rawHtml | .tag .footnoteReference => []
    | _ => plainAll cs

/-- The text that is read off the nodes of a list, in their order. -/
def plainAll : List Node → List Char
  | [] => []
  | n :: ns => plain n ++ plainAll ns

end

/-- The text that is read off the nodes of a list. -/
def plainText (ns : List Node) : String := String.ofList (plainAll ns)

theorem plainAll_nil : plainAll [] = [] := by rw [plainAll]

theorem plainAll_cons (n : Node) (ns : List Node) : plainAll (n :: ns) = n.plain ++ plainAll ns := by
  rw [plainAll]

theorem plainAll_append (ns ms : List Node) : plainAll (ns ++ ms) = plainAll ns ++ plainAll ms := by
  induction ns with
  | nil => rw [plainAll_nil, List.nil_append, List.nil_append]
  | cons n ns ih => rw [List.cons_append, plainAll_cons, ih, plainAll_cons, List.append_assoc]

theorem plain_eq_of_text? {n : Node} {s : String} (h : n.text? = some s) : n.plain = s.toList := by
  obtain ⟨k, p, m, cs⟩ := n
  rw [text?] at h
  split at h
  · next text =>
      rw [kind_mk] at text
      rw [text, plain]
      cases h
      rfl
  · cases h

/-- A text that two texts become says what they say. -/
theorem plainAll_joined (ns ms : List Node) : plainAll (joined ns ms) = plainAll ns ++ plainAll ms := by
  rw [joined]
  split
  · next s s' ends starts =>
      obtain ⟨n, last, text⟩ := Option.bind_eq_some_iff.1 ends
      obtain ⟨m, first, text'⟩ := Option.bind_eq_some_iff.1 starts
      obtain ⟨init, rfl⟩ := List.getLast?_eq_some_iff.1 last
      obtain ⟨tail, rfl⟩ := List.head?_eq_some_iff.1 first
      have both : (Build.text (s ++ s')).plain = s.toList ++ s'.toList := by
        rw [plain_eq_of_text? (text?_text _), String.toList_append]
      rw [List.dropLast_concat, List.tail_cons, plainAll_append, plainAll_cons, both, plainAll_append,
        plainAll_cons, plainAll_cons, plain_eq_of_text? text, plain_eq_of_text? text', plainAll_nil,
        List.append_nil, List.append_assoc, List.append_assoc]
  · exact plainAll_append ns ms

end Node

namespace Markdown

open Node

/-- What is read off the nodes of inline tokens is what the tokens flatten to. -/
theorem plainAll_phrases : ∀ ts : List Token, Token.placed .phrases ts →
    plainAll (phrases ts) = Token.flattenAll ts
  | [], _ => by
      rw [phrases, phrasesFrom, release, plainAll_nil, Token.flattenAll]
  | .mk t raw attrs reference label cs :: ts, placed => by
      obtain ⟨⟨inner, below, children⟩, rest⟩ := placed_cons placed
      have after := plainAll_phrases ts rest
      -- The seam behind the token does not show in the text, so only the token itself is left.
      rw [phrases_cons, plainAll_joined, after, Token.flattenAll_cons]
      congr 1
      cases t <;> simp only [Place.below, reduceCtorEq, Option.some.injEq] at below <;> subst below
      case text | softBreak =>
        simp [phrases, phrasesFrom, release, extend, Build.text, Build.node, plainAll, plain, Token.flattenAll,
          Entity.decode]
      case lineBreak | codeSpan =>
        simp [phrases, phrasesFrom, release, Build.lineBreak, Build.inlineCode, Build.node, plainAll, plain,
          Token.flattenAll]
      case inlineHtml | footnoteRef =>
        rw [eq_nil_of_placed_nothing children]
        simp [phrases, phrasesFrom, release, Build.rawHtml, Build.footnoteReference, Build.node, plainAll, plain,
          Token.flattenAll]
      case strong | emphasis | strikethrough =>
        have inside := plainAll_phrases cs children
        rw [phrases] at inside
        simp [phrases, phrasesFrom, release, Build.strong, Build.emphasis, Build.strikethrough, Build.node,
          plainAll, plain, Token.flattenAll, inside]
      case link =>
        have inside := plainAll_phrases cs children
        rw [phrases] at inside
        cases reference <;>
          simp [phrases, phrasesFrom, release, Build.link, Build.linkReference, Build.node, plainAll, plain,
            Token.flattenAll, inside]
      case image =>
        cases reference <;>
          simp [phrases, phrasesFrom, release, Build.image, Build.imageReference, Build.node, plainAll, plain,
            Token.flattenAll, Token.flatten]

/-- The two ways to read the text of inline tokens agree, for tokens of supported types of which only marks,
    links and images have tokens below them. -/
theorem flatten_eq_plainText (ts : List Token) (placed : Token.placed .phrases ts) :
    Token.flatten ts = plainText (phrases ts) := by
  rw [Token.flatten, plainText, plainAll_phrases ts placed]

/-- An image in a link, with a character reference and a soft line break below it, and tokens around it. -/
def linkedImage : List Token :=
  [.leaf .text "a &#38;", .leaf .inlineHtml "<b>", .leaf .lineBreak "\n",
   .mk .link none [] (some (.str "X")) none
    [.parent .image [.parent .strong [.leaf .codeSpan "&#60;", .leaf .softBreak "\n", .leaf .text "&#62;"]]]]

/-- The text below the image is read off its tokens and off its node, in its place between the others. -/
theorem plainText_linkedImage :
    Token.flatten linkedImage = "a &\n&#60;\n>" ∧ plainText (phrases linkedImage) = "a &\n&#60;\n>" := by
  rw [← flatten_eq_plainText linkedImage (by cbv)]
  constructor <;> cbv

end Markdown

end Unmark
