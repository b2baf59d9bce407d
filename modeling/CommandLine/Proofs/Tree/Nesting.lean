import CommandLine.Command.Reader
import CommandLine.Proofs.Tree.Leaves

/-!
# Lists inside lists

How deep the lists of a tree nest. In the tree of a line it is as deep as in the items of the line
(`nesting_ofItems_le_iff`), and no list is empty (`ne_nil_of_parse`).
-/

namespace CommandLine.Tree

variable {ts : List Tree} {elements : List Phrase} {items : List Item} {n : Nat}

mutual

/-- How many lists of a tree stand inside one another, at most. -/
def nesting : Tree → Nat
  | leaf _ => 0
  | detached _ _ => 0
  | node label children =>
    nestingAll children + if label.rule? = some .list then 1 else 0

/-- How many lists of some trees stand inside one another, at most. -/
def nestingAll : List Tree → Nat
  | [] => 0
  | t :: ts => max (nesting t) (nestingAll ts)

end

theorem nestingAll_le_iff : nestingAll ts ≤ n ↔ ∀ t ∈ ts, t.nesting ≤ n := by
  induction ts with
  | nil => exact iff_of_true (Nat.zero_le n) (List.forall_mem_nil _)
  | cons t ts ih => rw [nestingAll, Nat.max_le, ih, List.forall_mem_cons]

/-- Single nodes around a tree add nothing, unless they are lists. -/
theorem nesting_wrap {rules : List Rule} (h : .list ∉ rules) (t : Tree) :
    (wrap rules t).nesting = t.nesting := by
  induction rules with
  | nil => rfl
  | cons r rules ih =>
    obtain ⟨other, others⟩ := List.ne_and_not_mem_of_not_mem_cons h
    show nesting (node (.rule r) [wrap rules t]) = _
    simp [nesting, nestingAll, ih others, Label.rule?, other.symm]

theorem nesting_scalar (form : Scalar) (token : Token) :
    (ofPhrase (.scalar form token)).nesting = 0 := by
  have others : .list ∉ .value :: form.rules := by cases form <;> decide
  exact nesting_wrap others _

theorem nesting_list_le_iff :
    (ofPhrase (.list elements)).nesting ≤ n + 1 ↔ ∀ p ∈ elements, (ofPhrase p).nesting ≤ n := by
  have list : (ofPhrase (.list elements)).nesting = nestingAll (ofPhrases elements) + 1 := by
    have listed : (Label.rule .list).rule? = some .list := rfl
    rw [ofPhrase, nesting_wrap (by decide), nesting, if_pos listed]
  rw [list, Nat.add_le_add_iff_right, nestingAll_le_iff, ofPhrases_eq_map, List.forall_mem_map]

theorem nesting_keyword (key : Token) (p : Phrase) :
    (ofItem (.keyword key p)).nesting = (ofPhrase p).nesting := by
  simp [ofItem, nesting, nestingAll, Label.rule?]

theorem nesting_flag (token : Token) : (ofItem (.flag token)).nesting = 0 :=
  nesting_wrap (by decide) _

theorem nesting_ofItems_le_iff :
    (ofItems items).nesting ≤ n ↔ ∀ item ∈ items, (ofItem item).nesting ≤ n := by
  have line : (ofItems items).nesting = nestingAll (items.map ofItem) := by
    rw [ofItems, nesting, if_neg (by decide), Nat.add_zero]
  rw [line, nestingAll_le_iff, List.forall_mem_map]

/-! ## Empty lists -/

mutual

theorem ne_nil_of_mem_lists_ofPhrase : ∀ (p : Phrase) {sought : Terminal → Bool},
    p.Readable sought → ∀ children ∈ (ofPhrase p).lists, children ≠ []
  | .scalar form token, _, _ => by
    rw [lists_scalar]
    exact List.forall_mem_nil _
  | .list elements, _, h => by
    rw [lists_list]
    refine List.forall_mem_cons.2 ⟨?_, ne_nil_of_mem_lists_ofPhrases elements h.2⟩
    rw [ofPhrases_eq_map]
    simpa using h.1

theorem ne_nil_of_mem_lists_ofPhrases : ∀ ps : List Phrase, Phrase.AllReadable ps →
    ∀ children ∈ ps.flatMap fun p => (ofPhrase p).lists, children ≠ []
  | [], _ => List.forall_mem_nil _
  | p :: ps, h => by
    rw [List.flatMap_cons, List.forall_mem_append]
    exact ⟨ne_nil_of_mem_lists_ofPhrase p h.1, ne_nil_of_mem_lists_ofPhrases ps h.2⟩

end

/-- No list in the tree of a line is empty. -/
theorem ne_nil_of_parse {text : String} {tree : Tree} (parsed : parse text = .ok tree) :
    ∀ children ∈ tree.lists, children ≠ [] := by
  obtain ⟨items, read, rfl⟩ := parse_eq_ok_iff.1 parsed
  obtain ⟨readable, -⟩ := Item.readable_and_layout_of_ofText read
  rw [lists_ofItems]
  intro children member
  obtain ⟨item, inLine, inItem⟩ := List.mem_flatMap.1 member
  have itemReadable := readable item inLine
  cases item with
  | keyword key p =>
    have same : (ofItem (.keyword key p)).lists = (ofPhrase p).lists := by
      simp [ofItem, lists, listsAll, Label.rule?]
    exact ne_nil_of_mem_lists_ofPhrase p itemReadable.2 children (same ▸ inItem)
  | flag token =>
    have none : (ofItem (.flag token)).lists = [] := lists_wrap (by decide) _
    rw [none] at inItem
    cases inItem
  | value p => exact ne_nil_of_mem_lists_ofPhrase p itemReadable children inItem

end CommandLine.Tree
