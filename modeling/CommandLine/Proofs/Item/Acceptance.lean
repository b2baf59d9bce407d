import CommandLine.Proofs.Item.Readable

/-!
# Accepted lines

A layout of the lexemes of readable items is a line that is read to these items, but for the
places of their tokens: `exists_ofText_of_layout`.
-/

namespace CommandLine
open CommandLine.Text

/-- No token begins with a blank. -/
theorem Terminal.scan_blank {c : Char} (h : isBlank c = true) (t : Terminal) (cs : List Char) :
    t.scan (c :: cs) = none := by
  by_cases quoted : t = scalar .quoted
  · subst quoted
    apply quoted_scan_of_ne
    rintro rfl
    exact absurd h (by decide)
  · have nothing : t.scan [] = none := by
      cases scanned : t.scan [] with
      | none => rfl
      | some found =>
        obtain ⟨split, nonempty⟩ := scan_proper t _ found.1 found.2 scanned
        exact absurd (List.append_eq_nil_iff.1 split.symm).1 nonempty
    simpa [nothing] using scan_stopsAt quoted [] (c :: cs) h

namespace Item

variable {s : State} {cs text rest gap : List Char} {t : Terminal}
  {more : List Lexeme}

/-- Where a token is found, no blank is left before it. -/
theorem skipBlanks_of_firstScan {ts : List Terminal}
    (found : firstScan ts (text ++ rest) = some (t, text, rest)) (other : List Char) :
    skipBlanks (text ++ other) = text ++ other ∧ (text ++ other).takeWhile isBlank = [] := by
  obtain ⟨-, -, nonempty⟩ := firstScan_eq_some found
  obtain ⟨scanned, -⟩ := follow_of_firstScan found
  obtain ⟨c, tail, rfl⟩ := List.exists_cons_of_ne_nil nonempty
  have visible : isBlank c = false := by
    cases h : isBlank c with
    | false => rfl
    | true => simp [Terminal.scan_blank h] at scanned
  simp [skipBlanks, visible]

/-- Blanks before a lexeme are all that is passed over. -/
theorem skipBlanks_lexeme {ts : List Terminal} {other : List Char} (blank : Blank gap)
    (found : firstScan ts (text ++ other) = some (t, text, other)) (rest : List Char) :
    (gap ++ (text ++ rest)).takeWhile isBlank = gap ∧
      skipBlanks (gap ++ (text ++ rest)) = text ++ rest := by
  obtain ⟨visible, noGap⟩ := skipBlanks_of_firstScan found rest
  rw [takeWhile_blank_append blank, skipBlanks_append blank, visible, noGap]
  exact ⟨List.append_nil gap, rfl⟩

/-- Where a lexeme is laid out that reads as itself, it is read. -/
theorem readFrom_layout (here : Position) (taken : s.accepts t = true)
    (reads : firstScan (Terminal.byPriority.filter s.accepts) text = some (t, text, []))
    (layout : Layout ((t, text) :: more) cs) :
    ∃ there next rest, s.shift t (.read t text there) = some next ∧ Layout more rest ∧
      readFrom State.seeks s here cs = readFrom State.seeks next (there.advance text) rest := by
  cases layout with
  | @lexeme gap _ rest _ _ blank follows tail =>
    have reads : firstScan (Terminal.byPriority.filter s.accepts) (text ++ []) =
        some (t, text, []) := by simpa using reads
    obtain ⟨passed, skipped⟩ := skipBlanks_lexeme blank reads rest
    rw [List.append_assoc]
    have found := (State.firstScan_seeks_iff taken).2 (firstScan_transfer reads follows)
    rw [← skipped] at found
    obtain ⟨next, shifted⟩ := State.exists_shift taken (.read t text (here.advance gap))
    refine ⟨here.advance gap, next, rest, shifted, tail, ?_⟩
    rw [readFrom_shift found (passed.symm ▸ shifted), passed]

end Item

namespace State

/-- A state in which a value may begin that takes its place in a slot behind some items. -/
inductive Opens : State → List Item → Slot → Prop where
  | between (items : List Item) (afterValue : Bool) :
    Opens (between items afterValue) items .argument
  | awaiting (items : List Item) (slot : Slot) : Opens (awaiting items slot) items slot

variable {s : State} {items : List Item} {slot : Slot}

theorem Opens.shift_scalar (h : Opens s items slot) (form : Scalar) (token : Token) :
    s.shift (.scalar form) token = some (fill items slot (.scalar form token)) := by
  cases h <;> rfl

theorem Opens.shift_openBracket (h : Opens s items slot) (token : Token) :
    s.shift .openBracket token = some (.awaiting items (.element [] slot)) := by
  cases h <;> rfl

theorem Opens.reads_openBracket (h : Opens s items slot) :
    Item.firstScan (Terminal.byPriority.filter s.accepts) ['['] =
      some (.openBracket, ['['], []) := by
  cases h <;> rfl

end State

namespace Item

mutual

/-- A readable value is read where it is laid out and takes its place. -/
theorem readFrom_phrase {s : State} {items : List Item} {slot : Slot} {more : List Lexeme}
    (here : Position) (cs : List Char) (opens : State.Opens s items slot) :
    ∀ p : Phrase, p.Readable s.accepts → Layout (p.lexemes ++ more) cs →
    ∃ p' there rest, p'.unplaced = p.unplaced ∧ Layout more rest ∧
      readFrom State.seeks s here cs =
        readFrom State.seeks (State.fill items slot p') there rest
  | .scalar form token, readable, layout => by
    obtain ⟨symbol, reads⟩ := readable
    have taken := State.accepts_of_shift (opens.shift_scalar form token)
    obtain ⟨there, next, rest, shifted, tail, same⟩ := readFrom_layout here taken reads layout
    rw [opens.shift_scalar] at shifted
    cases shifted
    refine ⟨_, _, rest, ?_, tail, same⟩
    simp [Phrase.unplaced, Phrase.placed, Token.placed, Token.read, symbol]
  | .list elements, readable, layout => by
    have taken : s.accepts .openBracket = true := by cases opens <;> rfl
    simp only [Phrase.lexemes, List.cons_append, List.append_assoc] at layout
    obtain ⟨there, next, rest, shifted, tail, same⟩ :=
      readFrom_layout here taken opens.reads_openBracket layout
    rw [opens.shift_openBracket] at shifted
    cases shifted
    obtain ⟨elements', there', rest', alike, tail', same'⟩ :=
      readFrom_elements items [] slot _ rest elements readable.1 readable.2 tail
    refine ⟨.list elements', there', rest', ?_, tail', same.trans same'⟩
    simp only [Phrase.unplaced, Phrase.placed, Phrase.placedAll_eq_map]
    exact congrArg Phrase.list alike

/-- The readable elements of a list and the bracket behind them are read where they are laid
out. -/
theorem readFrom_elements {more : List Lexeme} (items : List Item) (before : List Phrase)
    (outer : Slot) (here : Position) (cs : List Char) :
    ∀ ps : List Phrase, ps ≠ [] → Phrase.AllReadable ps →
    Layout (Phrase.separated ps ++ .closeBracket :: more) cs →
    ∃ ps' there rest, ps'.map Phrase.unplaced = ps.map Phrase.unplaced ∧ Layout more rest ∧
      readFrom State.seeks (.awaiting items (.element before outer)) here cs =
        readFrom State.seeks (State.fill items outer (.list (before.reverse ++ ps'))) there rest
  | [], nonempty, _, _ => absurd rfl nonempty
  | [p], _, readable, layout => by
    obtain ⟨p', there, rest, alike, tail, same⟩ :=
      readFrom_phrase here cs (.awaiting items (.element before outer)) p readable.1 layout
    obtain ⟨past, next, rest', shifted, tail', same'⟩ :=
      readFrom_layout (s := .within items (p' :: before) outer) there rfl rfl tail
    cases shifted
    -- Behind the last element the bracket takes the list to its place.
    refine ⟨[p'], past.advance [']'], rest', by simp [alike], tail', ?_⟩
    rw [same, State.fill, same']
    simp
  | p :: q :: ps, _, readable, layout => by
    simp only [Phrase.separated, List.append_assoc] at layout
    obtain ⟨p', there, rest, alike, tail, same⟩ :=
      readFrom_phrase here cs (.awaiting items (.element before outer)) p readable.1 layout
    obtain ⟨past, next, rest', shifted, tail', same'⟩ :=
      readFrom_layout (s := .within items (p' :: before) outer) there rfl rfl tail
    cases shifted
    -- Behind the comma the other elements are read with this one before them.
    obtain ⟨ps', there'', rest'', alike', tail'', same''⟩ :=
      readFrom_elements items (p' :: before) outer (past.advance [',']) rest' (q :: ps) (by simp)
        readable.2 tail'
    refine ⟨p' :: ps', there'', rest'', ?_, tail'', ?_⟩
    · rw [List.map_cons, List.map_cons, alike, alike']
    · rw [same, State.fill, same', same'']
      simp

end

/-- A readable item is read where it is laid out, and joins the items before it. -/
theorem readFrom_item {more : List Lexeme} (items : List Item) (afterValue : Bool)
    (here : Position) {cs : List Char} (item : Item) (readable : item.Readable)
    (layout : Layout (item.lexemes ++ more) cs) :
    ∃ item' afterValue' there rest, item'.unplaced = item.unplaced ∧ Layout more rest ∧
      readFrom State.seeks (.between items afterValue) here cs =
        readFrom State.seeks (.between (item' :: items) afterValue') there rest := by
  cases item with
  | keyword key phrase =>
    obtain ⟨⟨symbol, reads⟩, hphrase⟩ := readable
    obtain ⟨_, next, rest, shifted, tail, same⟩ :=
      readFrom_layout (s := .between items afterValue) here rfl reads layout
    cases shifted
    obtain ⟨phrase', there, rest', alike, tail', same'⟩ :=
      readFrom_phrase _ rest (.awaiting items _) phrase hphrase tail
    refine ⟨_, _, there, rest', ?_, tail', same.trans same'⟩
    simp only [Item.unplaced, Item.placed, Item.keyword.injEq]
    exact ⟨by simp [Token.placed, Token.read, symbol], alike⟩
  | flag token =>
    obtain ⟨symbol, reads⟩ := readable
    obtain ⟨_, next, rest, shifted, tail, same⟩ :=
      readFrom_layout (s := .between items afterValue) here rfl reads layout
    cases shifted
    refine ⟨_, _, _, rest, ?_, tail, same⟩
    simp [Item.unplaced, Item.placed, Token.placed, Token.read, symbol]
  | value phrase =>
    obtain ⟨phrase', there, rest, alike, tail, same⟩ :=
      readFrom_phrase here cs (.between items afterValue) phrase readable layout
    exact ⟨.value phrase', true, there, rest, congrArg Item.value alike, tail, same⟩

/-- Readable items are read where they are laid out. -/
theorem readFrom_items (more : List Item) : ∀ (items : List Item) (afterValue : Bool)
    (here : Position) (cs : List Char), (∀ item ∈ more, item.Readable) →
    Layout (more.flatMap lexemes) cs →
    ∃ more', more'.map unplaced = more.map unplaced ∧
      readFrom State.seeks (.between items afterValue) here cs = .ok (items.reverse ++ more') := by
  induction more with
  | nil =>
    intro items afterValue here cs _ layout
    cases layout with
    | blank blank =>
      refine ⟨[], rfl, ?_⟩
      rw [readFrom_end (skipBlanks_eq_nil_iff.2 blank)]
      simp [State.items?]
  | cons item more ih =>
    intro items afterValue here cs readable layout
    obtain ⟨hitem, hmore⟩ := List.forall_mem_cons.1 readable
    obtain ⟨item', afterValue', there, rest, alike, tail, same⟩ :=
      readFrom_item items afterValue here item hitem layout
    obtain ⟨more', alike', accepted⟩ := ih (item' :: items) afterValue' there rest hmore tail
    refine ⟨item' :: more', by simp [alike, alike'], ?_⟩
    rw [same, accepted]
    simp

/-- A layout of readable items is a line that is read to these items, but for the places of their
tokens. -/
theorem exists_ofText_of_layout {cs : List Char} {items : List Item}
    (readable : ∀ item ∈ items, item.Readable) (layout : Layout (items.flatMap lexemes) cs) :
    ∃ items', items'.map unplaced = items.map unplaced ∧ ofText cs = .ok items' :=
  readFrom_items items [] false .start cs readable layout

end Item

end CommandLine
