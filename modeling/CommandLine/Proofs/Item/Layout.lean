import CommandLine.Proofs.Item.Reading

/-!
# Layouts

The lexemes that items consist of, and the texts in which given lexemes stand one after the other.
A line is read to items exactly if it is a layout of their lexemes and every token of them reads
as itself: `Item.readable_and_layout_of_ofText` and `Item.exists_ofText_of_layout`.
-/

namespace CommandLine
open CommandLine.Text

/-- A piece of a line and the terminal that it is read as. -/
abbrev Lexeme := Terminal × List Char

namespace Lexeme

/-- The bracket before the elements of a list. -/
def openBracket : Lexeme := (.openBracket, ['['])

/-- The bracket behind the elements of a list. -/
def closeBracket : Lexeme := (.closeBracket, [']'])

/-- What stands between two elements of a list. -/
def comma : Lexeme := (.comma, [','])

end Lexeme

/-- A text in which some lexemes stand one after the other with blanks around them, each before
something that may follow it. -/
inductive Layout : List Lexeme → List Char → Prop where
  | blank {gap : List Char} (blank : Blank gap) : Layout [] gap
  | lexeme {gap text rest : List Char} {t : Terminal} {more : List Lexeme} (blank : Blank gap)
      (follows : t.follow rest = true) (tail : Layout more rest) :
      Layout ((t, text) :: more) (gap ++ text ++ rest)

namespace Layout

variable {lexemes : List Lexeme} {cs gap : List Char}

theorem blank_space : Blank [' '] := List.forall_mem_singleton.2 (by decide)

theorem nil : Layout [] [] := .blank (by simp [Blank])

theorem cons {t : Terminal} {text rest : List Char} (follows : t.follow rest = true)
    (tail : Layout lexemes rest) : Layout ((t, text) :: lexemes) (text ++ rest) := by
  have empty : Blank [] := by simp [Blank]
  exact .lexeme empty follows tail

theorem gap_append (blank : Blank gap) (h : Layout lexemes cs) : Layout lexemes (gap ++ cs) := by
  cases h with
  | blank blank' =>
    exact .blank fun c member => (List.mem_append.1 member).elim (blank c) (blank' c)
  | lexeme blank' follows tail =>
    have both := fun c member => (List.mem_append.1 member).elim (blank c) (blank' c)
    rw [← List.append_assoc, ← List.append_assoc]
    exact .lexeme both follows tail

end Layout

/-! ## The lexemes of what was read -/

namespace Phrase

mutual

/-- The lexemes of a value. -/
def lexemes : Phrase → List Lexeme
  | scalar form token => [(.scalar form, token.text.toList)]
  | list elements => .openBracket :: separated elements ++ [.closeBracket]

/-- The lexemes of values with commas between them. -/
def separated : List Phrase → List Lexeme
  | [] => []
  | [p] => lexemes p
  | p :: q :: ps => lexemes p ++ .comma :: separated (q :: ps)

end

/-- The lexemes of values with a comma behind each. -/
def terminated (ps : List Phrase) : List Lexeme := ps.flatMap fun p => p.lexemes ++ [.comma]

theorem separated_append_one (ps : List Phrase) (p : Phrase) :
    separated (ps ++ [p]) = terminated ps ++ p.lexemes := by
  induction ps with
  | nil => simp [separated, terminated]
  | cons q ps ih =>
    cases ps with
    | nil => simp [separated, terminated]
    | cons r ps =>
      simp only [List.cons_append, separated] at ih ⊢
      simp [ih, terminated]

theorem separated_append_comma {ps : List Phrase} (h : ps ≠ []) :
    separated ps ++ [.comma] = terminated ps := by
  obtain ⟨init, last, rfl⟩ : ∃ init last, ps = init ++ [last] :=
    ⟨_, _, (List.dropLast_concat_getLast h).symm⟩
  rw [separated_append_one]
  simp [terminated]

end Phrase

/-- The lexemes of an item. -/
def Item.lexemes : Item → List Lexeme
  | .keyword key phrase => (.key, key.text.toList) :: phrase.lexemes
  | .flag token => [(.flag, token.text.toList)]
  | .value phrase => phrase.lexemes

/-! ## Texts that spell what was read -/

theorem intercalate_cons_cons {α : Type} (separator xs ys : List α) (more : List (List α)) :
    separator.intercalate (xs :: ys :: more) =
      xs ++ (separator ++ separator.intercalate (ys :: more)) := by
  simp [List.intercalate]

/-- A text is a layout of a value's lexemes wherever a value may end behind it. -/
def Phrase.Spells (p : Phrase) (text : List Char) : Prop :=
  ∀ more rest, Terminal.endsValue rest = true → Layout more rest →
    Layout (p.lexemes ++ more) (text ++ rest)

/-- A text is a layout of an item's lexemes wherever a word may end behind it. -/
def Item.Spells (item : Item) (text : List Char) : Prop :=
  ∀ more rest, Terminal.endsWord rest = true → Layout more rest →
    Layout (item.lexemes ++ more) (text ++ rest)

namespace Phrase

variable {ι : Type} {phrase : ι → Phrase} {text : ι → List Char} {gap : List Char}

theorem spells_scalar (form : Scalar) (token : Token) :
    (scalar form token).Spells token.text.toList := fun _ _ ends tail => Layout.cons ends tail

theorem layout_separated (blank : Blank gap) {more : List Lexeme} {rest : List Char} :
    ∀ xs : List ι, (∀ x ∈ xs, (phrase x).Spells (text x)) → Terminal.endsValue rest = true →
      Layout more rest →
      Layout (separated (xs.map phrase) ++ more) ((',' :: gap).intercalate (xs.map text) ++ rest)
  | [], _, _, tail => tail
  | [x], h, ends, tail => by
    have one := h x List.mem_cons_self more rest ends tail
    simpa [separated, List.intercalate] using one
  | x :: y :: xs, h, ends, tail => by
    obtain ⟨first, others⟩ := List.forall_mem_cons.1 h
    have later := (layout_separated blank (y :: xs) others ends tail).gap_append blank
    have comma : Layout (.comma :: (separated ((y :: xs).map phrase) ++ more)) ([','] ++ _) :=
      Layout.cons rfl later
    have whole := first _ _ rfl comma
    simpa [separated, intercalate_cons_cons] using whole

/-- A list is spelt by its elements between brackets, with commas and blanks between them. -/
theorem spells_list (blank : Blank gap) {xs : List ι}
    (h : ∀ x ∈ xs, (phrase x).Spells (text x)) :
    (list (xs.map phrase)).Spells
      ('[' :: (',' :: gap).intercalate (xs.map text) ++ [']']) := by
  intro more rest ends tail
  have close : Layout (.closeBracket :: more) ([']'] ++ rest) := Layout.cons ends tail
  have inside := layout_separated blank xs h rfl close
  have whole : Layout (.openBracket :: (separated (xs.map phrase) ++ .closeBracket :: more))
      (['['] ++ _) := Layout.cons rfl inside
  simpa [lexemes] using whole

end Phrase

namespace Item

/-- A keyword is spelt by its key, blanks and its value, unless two slashes may follow the key. -/
theorem spells_keyword {phrase : Phrase} {text gap : List Char} (key : Token) (blank : Blank gap)
    (h : phrase.Spells text) (apart : ∃ c tail, gap ++ text = c :: tail ∧ c ≠ '/') :
    (keyword key phrase).Spells (key.text.toList ++ (gap ++ text)) := by
  intro more rest ends tail
  obtain ⟨c, text', same, noSlash⟩ := apart
  have value := (h more rest (Terminal.endsValue_of_endsWord ends) tail).gap_append blank
  have follows : Terminal.key.follow (gap ++ (text ++ rest)) = true := by
    rw [← List.append_assoc, same]
    simp [Terminal.follow, Terminal.noSlashes, noSlash]
  have whole : Layout ((.key, key.text.toList) :: (phrase.lexemes ++ more))
      (key.text.toList ++ _) := Layout.cons follows value
  simpa [lexemes] using whole

theorem spells_flag (token : Token) : (flag token).Spells token.text.toList :=
  fun _ _ ends tail => Layout.cons ends tail

theorem spells_value {phrase : Phrase} {text : List Char} (h : phrase.Spells text) :
    (value phrase).Spells text :=
  fun more rest ends tail => h more rest (Terminal.endsValue_of_endsWord ends) tail

/-- Items that are spelt with blanks between them are laid out. -/
theorem layout_of_spells {ι : Type} {item : ι → Item} {text : ι → List Char} (xs : List ι)
    (h : ∀ x ∈ xs, (item x).Spells (text x)) :
    Layout ((xs.map item).flatMap lexemes) ([' '].intercalate (xs.map text)) := by
  induction xs with
  | nil => exact Layout.nil
  | cons x xs ih =>
    obtain ⟨first, others⟩ := List.forall_mem_cons.1 h
    rw [List.map_cons, List.flatMap_cons]
    cases xs with
    | nil =>
      have one := first [] [] rfl Layout.nil
      simpa [List.intercalate] using one
    | cons y ys =>
      have whole := first _ _ rfl ((ih others).gap_append Layout.blank_space)
      simpa only [List.map_cons, intercalate_cons_cons] using whole

end Item

/-! ## The lexemes before a state -/

/-- The lexemes before a value that takes its place. -/
def Slot.lexemes : Slot → List Lexeme
  | .argument => []
  | .keyword key => [(.key, key.text.toList)]
  | .element before outer =>
    outer.lexemes ++ .openBracket :: Phrase.terminated before.reverse

namespace State

/-- The lexemes that were read before a state. -/
def lexemes : State → List Lexeme
  | between items _ => items.reverse.flatMap Item.lexemes
  | awaiting items slot => items.reverse.flatMap Item.lexemes ++ slot.lexemes
  | within items elements outer =>
    items.reverse.flatMap Item.lexemes ++ outer.lexemes ++
      .openBracket :: Phrase.separated elements.reverse

theorem lexemes_fill (items : List Item) (slot : Slot) (value : Phrase) :
    (fill items slot value).lexemes =
      items.reverse.flatMap Item.lexemes ++ slot.lexemes ++ value.lexemes := by
  cases slot with
  | argument => simp [fill, lexemes, Slot.lexemes, Item.lexemes]
  | keyword key => simp [fill, lexemes, Slot.lexemes, Item.lexemes]
  | element before outer =>
    simp [fill, lexemes, Slot.lexemes, Phrase.separated_append_one]

end State

end CommandLine
