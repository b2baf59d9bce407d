import CommandLine.Proofs.Item.Readable

/-!
# Leaves and lists

The tokens at the leaves of a tree and what stands in its lists, and how both come out of the items
of a line: the tokens are those of the items one after the other, and the marks among their lexemes
are as many as the lists and what stands in them ask for (`Tree.marked_ofItems`).
-/

namespace CommandLine

/-! ## Marks -/

/-- The marks among some lexemes. -/
def Lexeme.marks (ls : List Lexeme) : List Char := ls.filterMap fun l => l.1.mark?

namespace Lexeme

theorem marks_append (ks ls : List Lexeme) : marks (ks ++ ls) = marks ks ++ marks ls :=
  List.filterMap_append

theorem marks_flatMap {α : Type} (f : α → List Lexeme) (xs : List α) :
    marks (xs.flatMap f) = xs.flatMap fun x => marks (f x) :=
  List.filterMap_flatMap

end Lexeme

namespace Tree

/-! ## Tokens and lists of a tree -/

mutual

/-- The tokens at the leaves of a tree, from left to right, but for those that have no place. -/
def tokens : Tree → List Token
  | leaf token => [token]
  | detached _ _ => []
  | node _ children => tokensAll children

/-- The tokens at the leaves of some trees. -/
def tokensAll : List Tree → List Token
  | [] => []
  | t :: ts => tokens t ++ tokensAll ts

end

mutual

/-- A tree all of whose tokens have a place. -/
def Attached : Tree → Prop
  | leaf _ => True
  | detached _ _ => False
  | node _ children => AllAttached children

/-- Trees all of whose tokens have a place. -/
def AllAttached : List Tree → Prop
  | [] => True
  | t :: ts => Attached t ∧ AllAttached ts

end

mutual

/-- What stands in each list of a tree, those that begin first at the front. -/
def lists : Tree → List (List Tree)
  | leaf _ => []
  | detached _ _ => []
  | node label children =>
    (if label.rule? = some .list then [children] else []) ++ listsAll children

/-- What stands in each list of some trees. -/
def listsAll : List Tree → List (List Tree)
  | [] => []
  | t :: ts => lists t ++ listsAll ts

end

theorem tokensAll_eq_flatMap (ts : List Tree) : tokensAll ts = ts.flatMap tokens := by
  induction ts with
  | nil => rfl
  | cons t ts ih => rw [tokensAll, ih, List.flatMap_cons]

theorem listsAll_eq_flatMap (ts : List Tree) : listsAll ts = ts.flatMap lists := by
  induction ts with
  | nil => rfl
  | cons t ts ih => rw [listsAll, ih, List.flatMap_cons]

theorem tokens_wrap (rules : List Rule) (t : Tree) : (wrap rules t).tokens = t.tokens := by
  induction rules with
  | nil => rfl
  | cons r rules ih =>
    show tokens (node (.rule r) [wrap rules t]) = _
    rw [tokens, tokensAll, tokensAll, ih, List.append_nil]

theorem lists_wrap {rules : List Rule} (h : .list ∉ rules) (t : Tree) :
    (wrap rules t).lists = t.lists := by
  induction rules with
  | nil => rfl
  | cons r rules ih =>
    obtain ⟨other, others⟩ := List.ne_and_not_mem_of_not_mem_cons h
    show lists (node (.rule r) [wrap rules t]) = _
    simp [lists, listsAll, ih others, Label.rule?, other.symm]

/-! ## Tokens of what was read -/

theorem tokens_scalar (form : Scalar) (token : Token) :
    (ofPhrase (.scalar form token)).tokens = [token] := tokens_wrap _ _

theorem tokens_list (elements : List Phrase) :
    (ofPhrase (.list elements)).tokens = elements.flatMap fun p => (ofPhrase p).tokens := by
  rw [ofPhrase, tokens_wrap, tokens, tokensAll_eq_flatMap, ofPhrases_eq_map, List.flatMap_map]

theorem tokens_ofItems (items : List Item) :
    (ofItems items).tokens = items.flatMap fun item => (ofItem item).tokens := by
  rw [ofItems, tokens, tokensAll_eq_flatMap, List.flatMap_map]

/-! ## Places of what was read -/

theorem attached_wrap (rules : List Rule) {t : Tree} (h : t.Attached) :
    (wrap rules t).Attached := by
  induction rules with
  | nil => exact h
  | cons r rules ih => exact ⟨ih, trivial⟩

theorem allAttached_of_forall {ts : List Tree} (h : ∀ t ∈ ts, t.Attached) : AllAttached ts := by
  induction ts with
  | nil => trivial
  | cons t ts ih =>
    obtain ⟨here, later⟩ := List.forall_mem_cons.1 h
    exact ⟨here, ih later⟩

mutual

theorem attached_ofPhrase : ∀ p : Phrase, (ofPhrase p).Attached
  | .scalar _ _ => attached_wrap _ trivial
  | .list elements => attached_wrap _ (allAttached_ofPhrases elements)

theorem allAttached_ofPhrases : ∀ ps : List Phrase, AllAttached (ofPhrases ps)
  | [] => trivial
  | p :: ps => ⟨attached_ofPhrase p, allAttached_ofPhrases ps⟩

end

theorem attached_ofItem (item : Item) : (ofItem item).Attached := by
  cases item with
  | keyword key phrase => exact ⟨trivial, attached_ofPhrase phrase, trivial⟩
  | flag token => exact attached_wrap _ trivial
  | value phrase => exact attached_ofPhrase phrase

/-- All tokens of items have a place. -/
theorem attached_ofItems (items : List Item) : (ofItems items).Attached :=
  allAttached_of_forall (List.forall_mem_map.2 fun item _ => attached_ofItem item)

/-! ## Lists of what was read -/

theorem lists_scalar (form : Scalar) (token : Token) :
    (ofPhrase (.scalar form token)).lists = [] := by
  have others : .list ∉ .value :: form.rules := by cases form <;> decide
  exact lists_wrap others _

theorem lists_list (elements : List Phrase) :
    (ofPhrase (.list elements)).lists =
      ofPhrases elements :: elements.flatMap fun p => (ofPhrase p).lists := by
  rw [ofPhrase, lists_wrap (by decide), lists, listsAll_eq_flatMap]
  simp [ofPhrases_eq_map, List.flatMap_map, Label.rule?]

theorem lists_ofItems (items : List Item) :
    (ofItems items).lists = items.flatMap fun item => (ofItem item).lists := by
  simp [ofItems, lists, listsAll_eq_flatMap, List.flatMap_map, Label.rule?]

/-! ## Marks of lists -/

/-- As many marks as some lists are written with: two brackets each, and a comma before everything
but what stands first in a list. -/
structure Marked (marks : List Char) (lists : List (List Tree)) : Prop where
  opened : marks.count '[' = lists.length
  closed : marks.count ']' = lists.length
  parted : marks.count ',' + lists.length = lists.flatten.length

theorem marked_nil : Marked [] [] := ⟨rfl, rfl, rfl⟩

theorem Marked.append {marks marks' : List Char} {lists lists' : List (List Tree)}
    (h : Marked marks lists) (h' : Marked marks' lists') :
    Marked (marks ++ marks') (lists ++ lists') := by
  obtain ⟨opened, closed, parted⟩ := h
  obtain ⟨opened', closed', parted'⟩ := h'
  constructor
  · rw [List.count_append, opened, opened', List.length_append]
  · rw [List.count_append, closed, closed', List.length_append]
  · rw [List.count_append, List.length_append, List.flatten_append, List.length_append, ← parted,
      ← parted']
    omega

theorem marked_flatMap {α : Type} {marks : α → List Char} {lists : α → List (List Tree)}
    {xs : List α} (h : ∀ x ∈ xs, Marked (marks x) (lists x)) :
    Marked (xs.flatMap marks) (xs.flatMap lists) := by
  induction xs with
  | nil => exact marked_nil
  | cons x xs ih =>
    obtain ⟨first, others⟩ := List.forall_mem_cons.1 h
    exact first.append (ih others)

/-- Between the elements of a list stands one comma less than there are elements. -/
theorem count_marks_separated (c : Char) : ∀ ps : List Phrase,
    (Lexeme.marks (Phrase.separated ps)).count c =
      (ps.flatMap fun p => Lexeme.marks p.lexemes).count c +
        (List.replicate (ps.length - 1) ',').count c
  | [] => rfl
  | [p] => by simp [Phrase.separated]
  | p :: q :: ps => by
    have later := count_marks_separated c (q :: ps)
    have comma : Lexeme.marks (.comma :: Phrase.separated (q :: ps)) =
        ',' :: Lexeme.marks (Phrase.separated (q :: ps)) := rfl
    rw [Phrase.separated, Lexeme.marks_append, comma, List.flatMap_cons, List.count_append,
      List.count_cons, later, List.count_append]
    simp only [List.length_cons, Nat.add_sub_cancel, List.replicate_succ, List.count_cons]
    omega

/-- A list adds its brackets and its commas to the marks of its elements. -/
theorem Marked.list {elements : List Phrase} (nonempty : elements ≠ [])
    (h : Marked (elements.flatMap fun p => Lexeme.marks p.lexemes)
      (elements.flatMap fun p => (ofPhrase p).lists)) :
    Marked (Lexeme.marks (Phrase.list elements).lexemes) (ofPhrase (.list elements)).lists := by
  obtain ⟨opened, closed, parted⟩ := h
  have marks : Lexeme.marks (Phrase.list elements).lexemes =
      '[' :: Lexeme.marks (Phrase.separated elements) ++ [']'] := by
    rw [Phrase.lexemes, Lexeme.marks_append]
    rfl
  have size : (ofPhrases elements).length = elements.length := by
    rw [ofPhrases_eq_map, List.length_map]
  have positive := List.length_pos_iff.2 nonempty
  rw [marks, lists_list]
  constructor
  · simp [count_marks_separated, List.count_replicate, opened]
  · simp [count_marks_separated, List.count_replicate, closed]
  · simp [count_marks_separated, size, ← parted]
    omega

mutual

theorem marked_ofPhrase : ∀ (p : Phrase) {sought : Terminal → Bool}, p.Readable sought →
    Marked (Lexeme.marks p.lexemes) (ofPhrase p).lists
  | .scalar form token, _, _ => by
    rw [lists_scalar]
    exact marked_nil
  | .list elements, _, h => (marked_flatMap (marked_ofPhrases elements h.2)).list h.1

theorem marked_ofPhrases : ∀ ps : List Phrase, Phrase.AllReadable ps →
    ∀ p ∈ ps, Marked (Lexeme.marks p.lexemes) (ofPhrase p).lists
  | [], _ => by simp
  | p :: ps, h => List.forall_mem_cons.2 ⟨marked_ofPhrase p h.1, marked_ofPhrases ps h.2⟩

end

theorem marked_ofItem {item : Item} (h : item.Readable) :
    Marked (Lexeme.marks item.lexemes) (ofItem item).lists := by
  cases item with
  | keyword key phrase =>
    have lists : (ofItem (.keyword key phrase)).lists = (ofPhrase phrase).lists := by
      simp [ofItem, Tree.lists, listsAll, Label.rule?]
    rw [lists]
    exact marked_ofPhrase phrase h.2
  | flag token => exact marked_nil
  | value phrase => exact marked_ofPhrase phrase h

/-- The marks among the lexemes of items are as many as their lists are written with. -/
theorem marked_ofItems {items : List Item} (h : ∀ item ∈ items, item.Readable) :
    Marked (Lexeme.marks (items.flatMap Item.lexemes)) (ofItems items).lists := by
  rw [Lexeme.marks_flatMap, lists_ofItems]
  exact marked_flatMap fun item member => marked_ofItem (h item member)

end Tree

end CommandLine
