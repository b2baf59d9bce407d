import CommandLine.Proofs.Item.Layout

/-!
# Readable items

Items whose tokens read as themselves. A line is read to some items exactly if these are readable
and the line is a layout of their lexemes: `Item.readable_and_layout_of_ofText` and
`Item.exists_ofText_of_layout`.
-/

namespace CommandLine
open CommandLine.Text

/-- A token whose text alone reads as a token of its terminal, where the terminals sought are
looked for. -/
def Token.Reads (sought : Terminal → Bool) (t : Terminal) (token : Token) : Prop :=
  token.symbol = .terminal t ∧
    Item.firstScan (Terminal.byPriority.filter sought) token.text.toList =
      some (t, token.text.toList, [])

namespace Phrase

mutual

/-- A value whose tokens read as themselves, where the terminals sought are looked for at its
beginning. A list has elements. -/
def Readable (sought : Terminal → Bool) : Phrase → Prop
  | scalar form token => token.Reads sought (.scalar form)
  | list elements => elements ≠ [] ∧ AllReadable elements

/-- Readable elements of a list. -/
def AllReadable : List Phrase → Prop
  | [] => True
  | p :: ps => Readable State.startsValue p ∧ AllReadable ps

end

theorem allReadable_iff {ps : List Phrase} :
    AllReadable ps ↔ ∀ p ∈ ps, p.Readable State.startsValue := by
  induction ps with
  | nil => simp [AllReadable]
  | cons p ps ih => simp [AllReadable, ih]

end Phrase

/-- An item whose tokens read as themselves. -/
def Item.Readable : Item → Prop
  | .keyword key phrase =>
    key.Reads State.startsItem .key ∧ phrase.Readable State.startsValue
  | .flag token => token.Reads State.startsItem .flag
  | .value phrase => phrase.Readable State.startsItem

namespace Slot

/-- A slot that was opened by readable tokens. -/
def Readable : Slot → Prop
  | argument => True
  | keyword key => key.Reads State.startsItem .key
  | element before outer => (∀ p ∈ before, p.Readable State.startsValue) ∧ outer.Readable

/-- What is looked for at the beginning of a value that takes its place in a slot. -/
def sought : Slot → Terminal → Bool
  | argument => State.startsItem
  | _ => State.startsValue

end Slot

namespace State

/-- A state in which all that was read is readable. Only a keyword or a list is waited behind, and
a list that may be closed has elements. -/
def Readable : State → Prop
  | between items _ => ∀ item ∈ items, item.Readable
  | awaiting items slot =>
    (∀ item ∈ items, item.Readable) ∧ slot.sought = startsValue ∧ slot.Readable
  | within items elements outer =>
    (∀ item ∈ items, item.Readable) ∧ elements ≠ [] ∧
      (∀ p ∈ elements, p.Readable startsValue) ∧ outer.Readable

theorem readable_initial : initial.Readable := by simp [initial, Readable]

theorem readable_fill {items : List Item} {slot : Slot} {value : Phrase}
    (hitems : ∀ item ∈ items, item.Readable) (hslot : slot.Readable)
    (hvalue : value.Readable slot.sought) : (fill items slot value).Readable := by
  cases slot with
  | argument => exact List.forall_mem_cons.2 ⟨hvalue, hitems⟩
  | keyword key => exact List.forall_mem_cons.2 ⟨⟨hslot, hvalue⟩, hitems⟩
  | element before outer =>
    exact ⟨hitems, by simp, List.forall_mem_cons.2 ⟨hvalue, hslot.1⟩, hslot.2⟩

/-- A token that reads as itself leads from readable states to readable states. -/
theorem readable_shift {s next : State} {t : Terminal} {token : Token} (h : s.Readable)
    (reads : token.Reads s.accepts t) (shifted : s.shift t token = some next) :
    next.Readable := by
  cases shifts_of_shift shifted with
  | key items afterValue => exact ⟨h, rfl, reads⟩
  | flag items afterValue => exact List.forall_mem_cons.2 ⟨reads, h⟩
  | argument items afterValue form => exact readable_fill h trivial reads
  | openArgument items afterValue => exact ⟨h, rfl, by simp, trivial⟩
  | scalar items slot form => exact readable_fill h.1 h.2.2 (h.2.1 ▸ reads)
  | openElement items slot => exact ⟨h.1, rfl, by simp, h.2.2⟩
  | comma items elements outer => exact ⟨h.1, rfl, h.2.2.1, h.2.2.2⟩
  | closeBracket items elements outer =>
    obtain ⟨hitems, nonempty, helements, houter⟩ := h
    refine readable_fill hitems houter ⟨by simpa using nonempty, ?_⟩
    exact Phrase.allReadable_iff.2 fun p member => helements p (List.mem_reverse.1 member)

/-- What was read before a state is what was read before a token and that token. -/
theorem lexemes_shift {s next : State} {t : Terminal} {text cs rest : List Char}
    {start : Position} (h : s.Readable) (scanned : t.scan cs = some (text, rest))
    (shifted : s.shift t (.read t text start) = some next) :
    next.lexemes = s.lexemes ++ [(t, text)] := by
  cases shifts_of_shift shifted with
  | key items afterValue => simp [lexemes, Slot.lexemes]
  | flag items afterValue => simp [lexemes, Item.lexemes]
  | argument items afterValue form =>
    rw [lexemes_fill]
    simp [lexemes, Slot.lexemes, Phrase.lexemes]
  | openArgument items afterValue =>
    obtain rfl := Terminal.text_of_mark rfl scanned
    simp [lexemes, Slot.lexemes, Phrase.terminated, Lexeme.openBracket]
  | scalar items slot form =>
    rw [lexemes_fill]
    simp [lexemes, Phrase.lexemes]
  | openElement items slot =>
    obtain rfl := Terminal.text_of_mark rfl scanned
    simp [lexemes, Slot.lexemes, Phrase.terminated, Lexeme.openBracket]
  | comma items elements outer =>
    obtain rfl := Terminal.text_of_mark rfl scanned
    have nonempty : elements.reverse ≠ [] := by simpa using h.2.1
    have commas := Phrase.separated_append_comma nonempty
    simp only [lexemes, Slot.lexemes, ← commas, Lexeme.comma, List.append_assoc, List.cons_append]
  | closeBracket items elements outer =>
    obtain rfl := Terminal.text_of_mark rfl scanned
    rw [lexemes_fill]
    simp [lexemes, Phrase.lexemes, Lexeme.closeBracket]

end State

namespace Item

variable {cs lexeme rest : List Char} {t : Terminal} {s next : State} {here : Position}

/-- A token that is taken reads as itself. -/
theorem reads_of_firstScan
    (found : firstScan (Terminal.byPriority.filter s.seeks) cs = some (t, lexeme, rest))
    (shifted : s.shift t (.read t lexeme here) = some next) :
    (Token.read t lexeme here).Reads s.accepts t := by
  have taken := State.accepts_of_shift shifted
  obtain ⟨-, split, -⟩ := firstScan_eq_some found
  have found := (State.firstScan_seeks_iff taken).1 found
  rw [split] at found
  have follows : t.follow [] = true := by cases t <;> rfl
  refine ⟨rfl, ?_⟩
  rw [Token.toList_text_read]
  simpa using firstScan_transfer found follows

/-- A text that is read to its end is a layout of what is read in it, and all of that is
readable. -/
theorem readable_and_layout_of_readFrom (s : State) (here : Position) (cs : List Char)
    {items : List Item} (h : s.Readable) (accepted : readFrom State.seeks s here cs = .ok items) :
    (∀ item ∈ items, item.Readable) ∧
      ∃ more, items.flatMap lexemes = s.lexemes ++ more ∧ Layout more cs := by
  -- Every token keeps what was read readable, and adds its lexeme to those before the state.
  cases going State.seeks s here cs with
  | ends blank =>
    rw [readFrom_end blank] at accepted
    cases s with
    | between items' afterValue =>
      obtain rfl : items'.reverse = items := by simpa [State.items?] using accepted
      refine ⟨fun item member => h item (List.mem_reverse.1 member), [], ?_, ?_⟩
      · simp [State.lexemes]
      · exact .blank (skipBlanks_eq_nil_iff.1 blank)
    | _ => simp [State.items?] at accepted
  | unread more missing => simp [readFrom_unread more missing] at accepted
  | refused t lexeme rest found refused => simp [readFrom_refused found refused] at accepted
  | shifts t lexeme rest next found shifted =>
    have shorter := length_lt_of_firstScan found
    obtain ⟨-, split, -⟩ := firstScan_eq_some found
    obtain ⟨scanned, -⟩ := follow_of_firstScan found
    rw [readFrom_shift found shifted] at accepted
    have readable := State.readable_shift h (reads_of_firstScan found shifted) shifted
    obtain ⟨hitems, more, same, layout⟩ :=
      readable_and_layout_of_readFrom next _ rest readable accepted
    refine ⟨hitems, (t, lexeme) :: more, ?_, ?_⟩
    · rw [same, State.lexemes_shift h scanned shifted]
      simp
    · have whole : cs = cs.takeWhile isBlank ++ lexeme ++ rest := by
        rw [List.append_assoc, ← split, skipBlanks, List.takeWhile_append_dropWhile]
      rw [whole]
      have gap : Blank (cs.takeWhile isBlank) := List.all_eq_true.1 List.all_takeWhile
      exact .lexeme gap (Scanner.before_eq_some.1 scanned).2 layout
termination_by cs.length

/-- A line that is accepted is a layout of readable items. -/
theorem readable_and_layout_of_ofText {cs : List Char} {items : List Item}
    (accepted : ofText cs = .ok items) :
    (∀ item ∈ items, item.Readable) ∧ Layout (items.flatMap lexemes) cs := by
  obtain ⟨readable, more, same, layout⟩ :=
    readable_and_layout_of_readFrom _ _ _ State.readable_initial accepted
  exact ⟨readable, same ▸ layout⟩

end Item

end CommandLine
