import CommandLine.Proofs.Item.Meaning
import CommandLine.Proofs.Item.Tiling

/-!
# Literals in order

The integer literals of a tree are those of its tokens, one token after the other, and the tokens
of a line tile its text; so the literals of the items of a line stand in the order of its text
(`Item.literals_inOrder`).
-/

namespace CommandLine
open CommandLine.Text

/-- The integer literals of a token of a terminal. -/
def Terminal.literals (token : Token) : Terminal → List Literal
  | scalar form => form.literals token
  | _ => []

theorem Terminal.token_of_mem_literals {token : Token} (t : Terminal) :
    ∀ l ∈ t.literals token, l.token = token := by
  cases t with
  | scalar form => cases form <;> simp [literals, Scalar.literals]
  | _ => simp [literals]

/-! ## Literals of trees -/

namespace Tree

mutual

/-- The integer literals of a tree, from left to right, in its tokens that have a place. -/
def literals : Tree → List Literal
  | leaf token =>
    match token.symbol with
    | .terminal t => t.literals token
    | _ => []
  | detached _ _ => []
  | node _ children => literalsAll children

/-- The integer literals of some trees. -/
def literalsAll : List Tree → List Literal
  | [] => []
  | t :: ts => literals t ++ literalsAll ts

end

theorem literals_wrap (rules : List Rule) (t : Tree) : (wrap rules t).literals = t.literals := by
  induction rules with
  | nil => rfl
  | cons r rules ih => simpa [wrap, literals, literalsAll] using ih

theorem token_of_mem_literals_leaf (token : Token) :
    ∀ l ∈ (leaf token).literals, l.token = token := by
  rw [literals]
  cases token.symbol with
  | terminal t => exact t.token_of_mem_literals
  | _ => simp

theorem literals_leaf {token : Token} {t : Terminal} (h : token.symbol = .terminal t) :
    (leaf token).literals = t.literals token := by
  rw [literals, h]

mutual

theorem literals_ofPhrase : ∀ (p : Phrase) {sought : Terminal → Bool}, p.Readable sought →
    (ofPhrase p).literals = p.literals
  | .scalar form token, _, h => by
    rw [ofPhrase, literals_wrap, literals_leaf h.1]
    rfl
  | .list elements, _, h => by
    rw [ofPhrase, literals_wrap, literals, literalsAll_ofPhrases elements h.2]
    rfl

theorem literalsAll_ofPhrases : ∀ ps : List Phrase, Phrase.AllReadable ps →
    literalsAll (ofPhrases ps) = Phrase.literalsAll ps
  | [], _ => rfl
  | p :: ps, h => by
    rw [ofPhrases, literalsAll, literals_ofPhrase p h.1, literalsAll_ofPhrases ps h.2]
    rfl

end

theorem literals_ofItem {item : Item} (h : item.Readable) :
    (ofItem item).literals = item.literals := by
  cases item with
  | keyword key phrase =>
    rw [ofItem, literals, literalsAll, literalsAll, literalsAll, literals_leaf h.1.1,
      literals_ofPhrase phrase h.2]
    simp [Terminal.literals, Item.literals]
  | flag token =>
    rw [ofItem, literals_wrap, literals_leaf h.1]
    rfl
  | value phrase => exact literals_ofPhrase phrase h

/-- The literals of a tree that was read are those of its items. -/
theorem literals_ofItems {items : List Item} (h : ∀ item ∈ items, item.Readable) :
    (ofItems items).literals = items.flatMap Item.literals := by
  rw [ofItems, literals]
  induction items with
  | nil => rfl
  | cons item items ih =>
    obtain ⟨here, later⟩ := List.forall_mem_cons.1 h
    rw [List.map_cons, literalsAll, literals_ofItem here, ih later, List.flatMap_cons]

mutual

theorem literals_eq_flatMap : ∀ t : Tree,
    t.literals = t.tokens.flatMap fun token => (leaf token).literals
  | leaf token => by rw [tokens, List.flatMap_singleton]
  | detached _ _ => rfl
  | node _ children => by rw [literals, tokens, literalsAll_eq_flatMap children]

theorem literalsAll_eq_flatMap : ∀ ts : List Tree,
    literalsAll ts = (tokensAll ts).flatMap fun token => (leaf token).literals
  | [] => rfl
  | t :: ts => by
    rw [literalsAll, tokensAll, List.flatMap_append, literals_eq_flatMap t,
      literalsAll_eq_flatMap ts]

end

end Tree

/-! ## Their order -/

/-- Literals stand in a text in this order, each in a token that is found at its place. -/
structure Literal.InOrder (cs : List Char) (ls : List Literal) : Prop where
  ascending : ls.Pairwise fun k l => k.token.start.offset ≤ l.token.start.offset
  found : ∀ l ∈ ls, l.token.text.toList <+: cs.drop l.token.start.offset

/-- Literals of tokens that stand in a text one behind the other are in order. -/
theorem Literal.inOrder_flatMap {text : String} {tokens : List Token}
    (stands : ∀ token ∈ tokens, token.Stands text)
    (ascending : tokens.Pairwise fun k l => k.stop.offset ≤ l.start.offset) :
    InOrder text.toList (tokens.flatMap fun token => (Tree.leaf token).literals) := by
  constructor
  · refine List.pairwise_flatMap.2 ⟨fun token _ => ?_, ?_⟩
    · refine List.pairwise_of_forall_mem_list fun k hk l hl => Nat.le_of_eq ?_
      rw [Tree.token_of_mem_literals_leaf token k hk, Tree.token_of_mem_literals_leaf token l hl]
    · refine ascending.imp_of_mem fun {first second} among _ before k hk l hl => ?_
      rw [Tree.token_of_mem_literals_leaf first k hk, Tree.token_of_mem_literals_leaf second l hl]
      have proper := (stands first among).proper
      omega
  · intro l member
    obtain ⟨token, among, inside⟩ := List.mem_flatMap.1 member
    rw [Tree.token_of_mem_literals_leaf token l inside, (stands token among).cut,
      List.extract_eq_take_drop]
    exact List.take_prefix _ _

/-- The literals of a line stand in the order of its text. -/
theorem Item.literals_inOrder {cs : List Char} {items : List Item}
    (accepted : ofText cs = .ok items) : Literal.InOrder cs (items.flatMap literals) := by
  obtain ⟨readable, -⟩ := readable_and_layout_of_ofText accepted
  have tiling := tiling_of_ofText accepted
  have whole : (String.ofList cs).toList = [] ++ cs := String.toList_ofList
  have inOrder := Literal.inOrder_flatMap (tiling.stands whole) tiling.ascending
  rwa [whole, ← Tree.literals_eq_flatMap, Tree.literals_ofItems readable] at inOrder

end CommandLine
