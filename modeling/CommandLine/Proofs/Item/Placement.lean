import CommandLine.Tree
import CommandLine.Item.Reader

/-!
# Places

What was read, with its tokens in other places. Two things that differ in the places of their
tokens alone are equal after both are put to one place (`unplaced`).
-/

namespace CommandLine

namespace Position

/-- A place in a text that stands behind a place of another text. -/
def after (p q : Position) : Position :=
  ⟨p.offset + q.offset, p.line + q.line - 1,
    if q.line = 1 then p.column + q.column - 1 else q.column⟩

/-- A place whose line and column are counted from one. -/
def Counted (p : Position) : Prop := 1 ≤ p.line ∧ 1 ≤ p.column

theorem counted_start : start.Counted := by simp [start, Counted]

theorem counted_step {p : Position} (h : p.Counted) (c : Char) : (p.step c).Counted := by
  obtain ⟨line, column⟩ := h
  unfold step Counted
  split
  · exact ⟨by simp, by simp⟩
  · exact ⟨line, by simp⟩

theorem counted_advance {p : Position} (h : p.Counted) (cs : List Char) :
    (p.advance cs).Counted := by
  induction cs generalizing p with
  | nil => exact h
  | cons c cs ih => exact ih (counted_step h c)

theorem after_step {q : Position} (h : q.Counted) (p : Position) (c : Char) :
    p.after (q.step c) = (p.after q).step c := by
  obtain ⟨line, column⟩ := h
  by_cases newline : c = '\n'
  · have later : q.line ≠ 0 := by omega
    have lines : p.line + (q.line + 1) - 1 = p.line + q.line - 1 + 1 := by omega
    simp [step, newline, after, later, lines, Nat.add_assoc]
  · have columns : p.column + (q.column + 1) - 1 = p.column + q.column - 1 + 1 := by omega
    by_cases first : q.line = 1 <;> simp [step, newline, after, first, columns, Nat.add_assoc]

theorem after_advance {q : Position} (h : q.Counted) (p : Position) (cs : List Char) :
    p.after (q.advance cs) = (p.after q).advance cs := by
  induction cs generalizing q with
  | nil => rfl
  | cons c cs ih => simp only [advance_cons, ih (counted_step h c), after_step h]

theorem offset_advance (p : Position) (cs : List Char) :
    (p.advance cs).offset = p.offset + cs.length := by
  induction cs generalizing p with
  | nil => rfl
  | cons c cs ih =>
    have one : (p.step c).offset = p.offset + 1 := by unfold step; split <;> rfl
    rw [advance_cons, ih, one, List.length_cons]
    omega

theorem offset_start_advance (cs : List Char) : (start.advance cs).offset = cs.length := by
  rw [offset_advance, start, Nat.zero_add]

theorem advance_reverse (cs : List Char) :
    start.advance cs.reverse =
      ⟨cs.length, cs.count '\n' + 1, (cs.takeWhile (· != '\n')).length + 1⟩ := by
  induction cs with
  | nil => rfl
  | cons c cs ih =>
    rw [List.reverse_cons, advance_append, ih]
    by_cases newline : c = '\n'
    · simp [step, newline]
    · simp [step, newline]

/-- The place that is reached over the front of a text is the place that the whole text tells. -/
theorem locate_append (front rest : List Char) :
    locate (front ++ rest) front.length = start.advance front := by
  have taken : (front ++ rest).take front.length = front := List.take_left
  have reached := advance_reverse front.reverse
  have shorter := (List.takeWhile_sublist (l := front.reverse) (· != '\n')).length_le
  rw [List.length_reverse] at shorter
  rw [List.reverse_reverse, List.length_reverse, List.count_reverse] at reached
  rw [reached, locate, lineStart, sinceNewline, taken, Nat.sub_sub_self shorter]

end Position

variable (f : Position → Position)

/-- A token in another place. -/
def Token.placed (t : Token) : Token := ⟨t.symbol, t.text, f t.start, f t.stop⟩

theorem Token.placed_read {p q : Position} (h : q.Counted) (t : Terminal) (lexeme : List Char) :
    (Token.read t lexeme q).placed p.after = .read t lexeme (p.after q) := by
  simp only [Token.read, Token.placed, Position.after_advance h]

@[simp] theorem Token.toList_text_read (t : Terminal) (lexeme : List Char) (p : Position) :
    (Token.read t lexeme p).text.toList = lexeme := String.toList_ofList

/-- The rejection of a text that stands behind a place of another text. -/
def Rejection.after (p : Position) : Rejection → Rejection
  | character offset expected => character (p.offset + offset) expected
  | token found expected => token (found.placed p.after) expected
  | endOfInput expected => endOfInput expected
  | other offset => other offset

/-- The same rejection with other symbols expected. -/
def Rejection.expecting (expected : List Symbol) : Rejection → Rejection
  | character offset _ => character offset expected
  | token found _ => token found expected
  | endOfInput _ => endOfInput expected
  | other offset => other offset

namespace Phrase

mutual

/-- A value with its tokens in other places. -/
def placed : Phrase → Phrase
  | scalar form token => scalar form (token.placed f)
  | list elements => list (placedAll elements)

/-- Some values with their tokens in other places. -/
def placedAll : List Phrase → List Phrase
  | [] => []
  | p :: ps => placed p :: placedAll ps

end

/-- A value with all its tokens in one place. -/
def unplaced (p : Phrase) : Phrase := p.placed fun _ => .start

theorem placedAll_eq_map (ps : List Phrase) : placedAll f ps = ps.map (placed f) := by
  induction ps with
  | nil => rfl
  | cons p ps ih => rw [placedAll, ih, List.map_cons]

end Phrase

/-- An item with its tokens in other places. -/
def Item.placed : Item → Item
  | .keyword key phrase => .keyword (key.placed f) (phrase.placed f)
  | .flag token => .flag (token.placed f)
  | .value phrase => .value (phrase.placed f)

/-- An item with all its tokens in one place. -/
def Item.unplaced (item : Item) : Item := item.placed fun _ => .start

/-- What differs from a value of one token in places alone is such a value with that text. -/
theorem Item.eq_of_unplaced_scalar {item : Item} {form : Scalar} {sample : Token}
    (alike : item.unplaced = (value (.scalar form sample)).unplaced) :
    ∃ token, item = value (.scalar form token) ∧ token.text = sample.text := by
  cases item with
  | keyword key phrase => cases alike
  | flag token => cases alike
  | value phrase =>
    cases phrase with
    | list elements => cases alike
    | scalar form' token =>
      obtain ⟨rfl, same⟩ : form' = form ∧
          token.placed (fun _ => .start) = sample.placed fun _ => .start := by
        simpa [unplaced, placed, Phrase.placed] using alike
      have texts : (token.placed fun _ => .start).text = (sample.placed fun _ => .start).text :=
        congrArg Token.text same
      exact ⟨token, rfl, texts⟩

/-- A slot with its tokens in other places. -/
def Slot.placed : Slot → Slot
  | .argument => .argument
  | .keyword key => .keyword (key.placed f)
  | .element before outer => .element (before.map (Phrase.placed f)) outer.placed

namespace Tree

mutual

/-- A tree with its tokens in other places. -/
def placed : Tree → Tree
  | leaf token => leaf (token.placed f)
  | detached symbol text => detached symbol text
  | node label children => node label (placedAll children)

/-- Some trees with their tokens in other places. -/
def placedAll : List Tree → List Tree
  | [] => []
  | t :: ts => placed t :: placedAll ts

end

/-- A tree with all its tokens in one place. -/
def unplaced (t : Tree) : Tree := t.placed fun _ => .start

theorem placedAll_eq_map (ts : List Tree) : placedAll f ts = ts.map (placed f) := by
  induction ts with
  | nil => rfl
  | cons t ts ih => rw [placedAll, ih, List.map_cons]

theorem placed_wrap (rules : List Rule) (t : Tree) :
    (wrap rules t).placed f = wrap rules (t.placed f) := by
  induction rules with
  | nil => rfl
  | cons r rules ih =>
    show placed f (node (.rule r) [wrap rules t]) = _
    simp only [placed, placedAll, ih]
    rfl

mutual

theorem placed_ofPhrase : ∀ p : Phrase, (ofPhrase p).placed f = ofPhrase (p.placed f)
  | .scalar form token => by simp only [ofPhrase, placed_wrap, placed, Phrase.placed]
  | .list elements => by
    simp only [ofPhrase, placed_wrap, placed, Phrase.placed, placedAll_ofPhrases elements]

theorem placedAll_ofPhrases :
    ∀ ps : List Phrase, placedAll f (ofPhrases ps) = ofPhrases (Phrase.placedAll f ps)
  | [] => rfl
  | p :: ps => by
    simp only [ofPhrases, placedAll, Phrase.placedAll, placed_ofPhrase p, placedAll_ofPhrases ps]

end

theorem placed_ofItem (item : Item) : (ofItem item).placed f = ofItem (item.placed f) := by
  cases item with
  | keyword key value => simp only [ofItem, placed, placedAll, Item.placed, placed_ofPhrase]
  | flag token => simp only [ofItem, placed_wrap, placed, Item.placed]
  | value phrase => exact placed_ofPhrase f phrase

/-- The tree of items in other places is their tree in other places. -/
theorem placed_ofItems (items : List Item) :
    (ofItems items).placed f = ofItems (items.map (Item.placed f)) := by
  simp only [ofItems, placed, placedAll_eq_map, List.map_map]
  congr 1
  exact List.map_congr_left fun item _ => placed_ofItem f item

end Tree

namespace State

/-- A state with its tokens in other places. -/
def placed : State → State
  | between items afterValue => between (items.map (Item.placed f)) afterValue
  | awaiting items slot => awaiting (items.map (Item.placed f)) (slot.placed f)
  | within items elements outer =>
    within (items.map (Item.placed f)) (elements.map (Phrase.placed f)) (outer.placed f)

@[simp] theorem accepts_placed (s : State) : (s.placed f).accepts = s.accepts := by
  cases s <;> rfl

@[simp] theorem seeks_placed (s : State) : (s.placed f).seeks = s.seeks := by
  cases s with
  | between items afterValue => cases afterValue <;> rfl
  | _ => rfl

theorem items?_placed (s : State) :
    (s.placed f).items? = s.items?.map (List.map (Item.placed f)) := by
  cases s <;> simp [placed, items?]

theorem acceptable_placed (s : State) : (s.placed f).acceptable = s.acceptable := by
  simp [acceptable, items?_placed]

theorem fill_placed (items : List Item) (slot : Slot) (value : Phrase) :
    (fill items slot value).placed f =
      fill (items.map (Item.placed f)) (slot.placed f) (value.placed f) := by
  cases slot <;> rfl

/-- Tokens in other places lead to states in other places. -/
theorem shift_placed (s : State) (t : Terminal) (token : Token) :
    (s.placed f).shift t (token.placed f) = (s.shift t token).map (placed f) := by
  cases s with
  | between items afterValue => cases t <;> rfl
  | awaiting items slot =>
    cases t with
    | scalar form => exact congrArg some (fill_placed f items slot (.scalar form token)).symm
    | _ => rfl
  | within items elements outer =>
    cases t with
    | closeBracket =>
      have filled := fill_placed f items outer (.list elements.reverse)
      rw [Phrase.placed, Phrase.placedAll_eq_map, List.map_reverse] at filled
      exact congrArg some filled.symm
    | _ => rfl

end State

end CommandLine
