import CommandLine.Proofs.Item.Acceptance
import CommandLine.Proofs.Item.Meaning

/-!
# Trees written as lines

The line that is written from a tree alone, with one blank between items and one behind every comma
of a list. It is read to the same tree, but for the places of the tokens (`Tree.parse_render`).
-/

namespace CommandLine

namespace Tree

/-- The texts of a node's children put together: with blanks between them at a line or a keyword,
between brackets with commas at a list. -/
def joined (label : Label) (texts : List (List Char)) : List Char :=
  match label.rule? with
  | some .command => [' '].intercalate texts
  | some .keyword => [' '].intercalate texts
  | some .list => '[' :: [',', ' '].intercalate texts ++ [']']
  | _ => texts.flatten

mutual

/-- The characters that a tree is written with. -/
def chars : Tree → List Char
  | leaf token => token.text.toList
  | detached _ text => text.toList
  | node label children => joined label (charsAll children)

/-- The characters that each of some trees is written with. -/
def charsAll : List Tree → List (List Char)
  | [] => []
  | t :: ts => chars t :: charsAll ts

end

/-- A tree written as a line. -/
def render (t : Tree) : String := String.ofList t.chars

theorem charsAll_eq_map (ts : List Tree) : charsAll ts = ts.map chars := by
  induction ts with
  | nil => rfl
  | cons t ts ih => rw [charsAll, ih, List.map_cons]

theorem chars_scalar (form : Scalar) (token : Token) :
    (ofPhrase (.scalar form token)).chars = token.text.toList := by
  cases form <;> simp [ofPhrase, Scalar.rules, wrap, chars, charsAll, joined, Label.rule?]

theorem chars_list (elements : List Phrase) :
    (ofPhrase (.list elements)).chars =
      '[' :: [',', ' '].intercalate (charsAll (ofPhrases elements)) ++ [']'] := by
  simp [ofPhrase, wrap, chars, charsAll, joined, Label.rule?]

/-! ## What is written is a layout -/

mutual

theorem spells_ofPhrase : ∀ p : Phrase, p.Spells (ofPhrase p).chars
  | .scalar form token => by
    rw [chars_scalar]
    exact Phrase.spells_scalar form token
  | .list elements => by
    have spelt : (Phrase.list (elements.map id)).Spells _ :=
      Phrase.spells_list Layout.blank_space (spells_ofPhrases elements)
    rw [List.map_id] at spelt
    rw [chars_list, ofPhrases_eq_map, charsAll_eq_map, List.map_map]
    exact spelt

theorem spells_ofPhrases : ∀ ps : List Phrase, ∀ p ∈ ps, p.Spells (ofPhrase p).chars
  | [] => by simp
  | p :: ps => List.forall_mem_cons.2 ⟨spells_ofPhrase p, spells_ofPhrases ps⟩

end

theorem spells_ofItem (item : Item) : item.Spells (ofItem item).chars := by
  cases item with
  | keyword key phrase =>
    have spelt := Item.spells_keyword key Layout.blank_space (spells_ofPhrase phrase)
      ⟨' ', _, rfl, by decide⟩
    simpa [ofItem, chars, charsAll, joined, Label.rule?, List.intercalate] using spelt
  | flag token =>
    simpa [ofItem, wrap, chars, charsAll, joined, Label.rule?] using Item.spells_flag token
  | value phrase => exact Item.spells_value (spells_ofPhrase phrase)

theorem layout_ofItems (items : List Item) :
    Layout (items.flatMap Item.lexemes) (ofItems items).chars := by
  have each : ∀ item ∈ items, item.Spells (ofItem item).chars := fun item _ => spells_ofItem item
  have laidOut : Layout ((items.map id).flatMap Item.lexemes) _ :=
    Item.layout_of_spells items each
  rw [List.map_id] at laidOut
  simpa [ofItems, chars, charsAll_eq_map, joined, Label.rule?, Function.comp_def] using laidOut

/-! ## Reading what was written -/

/-- A tree that was read from a line is read again from the line that is written from it, and both
lines give the same command. -/
theorem parse_render {text : String} {tree : Tree} (accepted : parse text = .ok tree) :
    ∃ again, parse tree.render = .ok again ∧ again.unplaced = tree.unplaced ∧
      ∀ command, Command.parse text = .ok command →
        Command.parse tree.render = .ok command := by
  cases read : Item.ofText text.toList with
  | error rejection => simp [parse, read] at accepted
  | ok items =>
    obtain rfl : ofItems items = tree := by simpa [parse, read] using accepted
    obtain ⟨readable, -⟩ := Item.readable_and_layout_of_ofText read
    obtain ⟨items', alike, read'⟩ := Item.exists_ofText_of_layout readable (layout_ofItems items)
    have written : (ofItems items).render.toList = (ofItems items).chars := String.toList_ofList
    rw [← written] at read'
    refine ⟨ofItems items', by simp [parse, read'], ?_, fun command said => ?_⟩
    · rw [unplaced, unplaced, placed_ofItems, placed_ofItems]
      exact congrArg ofItems alike
    · obtain ⟨fit, same⟩ := (Command.parse_eq_ok_iff read).1 said
      obtain ⟨entries, fits⟩ := Item.alike_of_unplaced alike
      exact (Command.parse_eq_ok_iff read').2 ⟨fits.2 fit, entries ▸ same⟩

theorem parse_render_nested : ∃ tree, parse "-v  a:[1,[x,\"]\"]]\t..-4" = .ok tree ∧
    ∃ again, parse tree.render = .ok again ∧ again.unplaced = tree.unplaced ∧
      ∀ command, Command.parse "-v  a:[1,[x,\"]\"]]\t..-4" = .ok command →
        Command.parse tree.render = .ok command := by
  have accepted : (parse "-v  a:[1,[x,\"]\"]]\t..-4").isOk = true := by decide +kernel
  cases read : parse "-v  a:[1,[x,\"]\"]]\t..-4" with
  | error error => simp [read, Except.isOk, Except.toBool] at accepted
  | ok tree => exact ⟨tree, rfl, parse_render read⟩

end Tree

end CommandLine
