import CommandLine.Proofs.Terminal.Lexeme

/-!
# States behind other items

A state does not depend on the items that were read before, and what it looks for without being
able to take it never comes before what it can take.
-/

namespace CommandLine.State

/-- All that a token can do: the state before it, its terminal, and the state after it. -/
inductive Shifts (token : Token) : State → Terminal → State → Prop where
  | key (items : List Item) (afterValue : Bool) :
    Shifts token (between items afterValue) .key (awaiting items (.keyword token))
  | flag (items : List Item) (afterValue : Bool) :
    Shifts token (between items afterValue) .flag (between (.flag token :: items) false)
  | argument (items : List Item) (afterValue : Bool) (form : Scalar) :
    Shifts token (between items afterValue) (.scalar form)
      (fill items .argument (.scalar form token))
  | openArgument (items : List Item) (afterValue : Bool) :
    Shifts token (between items afterValue) .openBracket (awaiting items (.element [] .argument))
  | scalar (items : List Item) (slot : Slot) (form : Scalar) :
    Shifts token (awaiting items slot) (.scalar form) (fill items slot (.scalar form token))
  | openElement (items : List Item) (slot : Slot) :
    Shifts token (awaiting items slot) .openBracket (awaiting items (.element [] slot))
  | comma (items : List Item) (elements : List Phrase) (outer : Slot) :
    Shifts token (within items elements outer) .comma (awaiting items (.element elements outer))
  | closeBracket (items : List Item) (elements : List Phrase) (outer : Slot) :
    Shifts token (within items elements outer) .closeBracket
      (fill items outer (.list elements.reverse))

theorem shifts_of_shift {s next : State} {t : Terminal} {token : Token}
    (h : s.shift t token = some next) : Shifts token s t next := by
  cases s <;> cases t <;> cases h <;> constructor

theorem accepts_of_shift {s next : State} {t : Terminal} {token : Token}
    (h : s.shift t token = some next) : s.accepts t = true := by
  rw [← shift_isSome s t token, h]
  rfl

theorem exists_shift {s : State} {t : Terminal} (h : s.accepts t = true) (token : Token) :
    ∃ next, s.shift t token = some next :=
  Option.isSome_iff_exists.1 (by rw [shift_isSome, h])

/-- What a token does between items does not depend on what was read last. -/
theorem shift_between (items : List Item) (a b : Bool) (t : Terminal) (token : Token) :
    (between items a).shift t token = (between items b).shift t token := by
  cases t <;> rfl

/-- A state behind some more items, newest first. -/
def above (below : List Item) : State → State
  | between items afterValue => between (items ++ below) afterValue
  | awaiting items slot => awaiting (items ++ below) slot
  | within items elements outer => within (items ++ below) elements outer

theorem seeks_above (below : List Item) (s : State) : (s.above below).seeks = s.seeks := by
  cases s with
  | between items afterValue => cases afterValue <;> rfl
  | _ => rfl

theorem items?_above (below : List Item) (s : State) :
    (s.above below).items? = s.items?.map (below.reverse ++ ·) := by
  cases s <;> simp [above, items?]

theorem acceptable_above (below : List Item) (s : State) :
    (s.above below).acceptable = s.acceptable := by
  cases s <;> rfl

theorem fill_above (below items : List Item) (slot : Slot) (value : Phrase) :
    (fill items slot value).above below = fill (items ++ below) slot value := by
  cases slot <;> rfl

/-- A token does the same behind other items. -/
theorem shift_above (below : List Item) (s : State) (t : Terminal) (token : Token) :
    (s.above below).shift t token = (s.shift t token).map (above below) := by
  cases s with
  | between items afterValue => cases t <;> rfl
  | awaiting items slot =>
    cases t with
    | scalar form => exact congrArg some (fill_above below items slot (.scalar form token)).symm
    | _ => rfl
  | within items elements outer =>
    cases t with
    | closeBracket =>
      exact congrArg some (fill_above below items outer (.list elements.reverse)).symm
    | _ => rfl

/-- What is looked for can stand here if it begins with the same character as something that
can. -/
theorem accepts_of_scan {s : State} {t u : Terminal} {c : Char} {cs ds : List Char}
    {found found' : List Char × List Char} (sought : s.seeks t = true)
    (h : t.scan (c :: cs) = some found) (hu : s.accepts u = true)
    (h' : u.scan (c :: ds) = some found') : s.accepts t = true := by
  cases s with
  | awaiting => exact sought
  | within =>
    have separates : u = .comma ∨ u = .closeBracket := by simpa [accepts] using hu
    exact Terminal.eq_of_separator separates h' h ▸ hu
  | between items afterValue =>
    by_cases separates : t = .comma ∨ t = .closeBracket
    · exact Terminal.eq_of_separator separates h h' ▸ hu
    · cases t <;> simp_all [accepts, startsItem, startsValue]

/-- What is looked for without being able to stand here has no lexeme where something that can
stand here has one. -/
theorem scan_of_seeks {s : State} {t u : Terminal} {cs : List Char}
    {found : List Char × List Char} (h : t.scan cs = some found) (ht : s.accepts t = true)
    (hu : s.accepts u = false) (sought : s.seeks u = true) : u.scan cs = none := by
  obtain ⟨split, nonempty⟩ := Terminal.scan_proper t _ _ _ h
  obtain ⟨c, l, same⟩ := List.exists_cons_of_ne_nil nonempty
  rw [same, List.cons_append] at split
  subst split
  cases found' : u.scan (c :: (l ++ found.2)) with
  | none => rfl
  | some _ => simp [accepts_of_scan sought found' ht h] at hu

/-- What can stand here is found whether or not more is looked for. -/
theorem firstScan_seeks_iff {s : State} {t : Terminal} {cs lexeme rest : List Char}
    (ht : s.accepts t = true) :
    Item.firstScan (Terminal.byPriority.filter s.seeks) cs = some (t, lexeme, rest) ↔
      Item.firstScan (Terminal.byPriority.filter s.accepts) cs = some (t, lexeme, rest) := by
  have alike {found : List Char × List Char} (h : t.scan cs = some found) :
      Item.firstScan (Terminal.byPriority.filter s.seeks) cs =
        Item.firstScan (Terminal.byPriority.filter s.accepts) cs := by
    refine Item.firstScan_filter_congr fun u _ => ?_
    cases hu : s.accepts u with
    | true => exact .inl (seeks_of_accepts hu)
    | false =>
      cases sought : s.seeks u with
      | true => exact .inr (scan_of_seeks h ht hu sought)
      | false => exact .inl rfl
  constructor
  · exact fun h => alike (Item.follow_of_firstScan h).1 ▸ h
  · exact fun h => alike (Item.follow_of_firstScan h).1 ▸ h

end CommandLine.State
