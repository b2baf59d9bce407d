import CommandLine.Item

/-!
# States of reading a line

Between two tokens a reader is in one of three states: between items, before a value that has to
come, or inside a list behind one of its elements. What the value being read will become is kept
as a slot, so a state holds all that was read and nothing else.
-/

namespace CommandLine

/-- What a value that is being read will become. -/
inductive Slot where
  /-- A value of the line. -/
  | argument
  /-- The value of a keyword. -/
  | keyword (key : Token)
  /-- An element of a list: the elements before it, newest first, and what the list will become. -/
  | element (before : List Phrase) (outer : Slot)
deriving Repr

/-- Where a reader stands between two tokens. Items are kept newest first. -/
inductive State where
  /-- Between items: at the beginning of the line, behind a flag or behind a value. -/
  | between (items : List Item) (afterValue : Bool)
  /-- Before a value: behind a keyword, an opening bracket or a comma. -/
  | awaiting (items : List Item) (slot : Slot)
  /-- Inside a list, behind an element. Elements are kept newest first. -/
  | within (items : List Item) (elements : List Phrase) (outer : Slot)
deriving Repr

namespace State

/-- The state before the first token. -/
def initial : State := between [] false

/-- A finished value takes its place. -/
def fill (items : List Item) (slot : Slot) (value : Phrase) : State :=
  match slot with
  | .argument => between (.value value :: items) true
  | .keyword key => between (.keyword key value :: items) true
  | .element before outer => within items (value :: before) outer

/-- The state after a token of a given terminal, if the token can stand here. -/
def shift : State → Terminal → Token → Option State
  | between items _, .key, token => some (awaiting items (.keyword token))
  | between items _, .flag, token => some (between (.flag token :: items) false)
  | between items _, .scalar form, token => some (fill items .argument (.scalar form token))
  | between items _, .openBracket, _ => some (awaiting items (.element [] .argument))
  | awaiting items slot, .scalar form, token => some (fill items slot (.scalar form token))
  | awaiting items slot, .openBracket, _ => some (awaiting items (.element [] slot))
  | within items elements outer, .comma, _ => some (awaiting items (.element elements outer))
  | within items elements outer, .closeBracket, _ =>
    some (fill items outer (.list elements.reverse))
  | _, _, _ => none

/-- The items of a line that may end here. -/
def items? : State → Option (List Item)
  | between items _ => some items.reverse
  | _ => none

/-! ## Which terminals can come next -/

/-- Whether a value begins with this terminal. -/
def startsValue : Terminal → Bool
  | .openBracket => true
  | .scalar _ => true
  | _ => false

/-- Whether an item begins with this terminal. -/
def startsItem (t : Terminal) : Bool := t == .key || t == .flag || startsValue t

/-- The terminals that can stand here. -/
def accepts : State → Terminal → Bool
  | between _ _, t => startsItem t
  | awaiting _ _, t => startsValue t
  | within _ _ _, t => t == .comma || t == .closeBracket

/-- The terminals that are looked for here. Behind a value they do not depend on whether the value
is an element of a list, so more is looked for than can stand here. -/
def seeks : State → Terminal → Bool
  | between _ false, t => startsItem t
  | awaiting _ _, t => startsValue t
  | between _ true, _ => true
  | within _ _ _, _ => true

/-- A terminal can stand in a state exactly if a token of it leads to a next state. -/
theorem shift_isSome (s : State) (t : Terminal) (token : Token) :
    (s.shift t token).isSome = s.accepts t := by
  cases s <;> cases t <;> rfl

/-- What can stand here is looked for. -/
theorem seeks_of_accepts {s : State} {t : Terminal} (h : s.accepts t = true) :
    s.seeks t = true := by
  cases s with
  | between items afterValue => cases afterValue <;> simp_all [accepts, seeks]
  | awaiting => exact h
  | within => rfl

/-- The symbols that can come next: terminals, and the end of the line where it may end. -/
def acceptable (s : State) : List Symbol :=
  (Terminal.byPriority.filter s.accepts).map .terminal ++
    if s.items?.isSome then [.endOfInput] else []

end State

end CommandLine
