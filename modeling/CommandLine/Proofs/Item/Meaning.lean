import CommandLine.Command.Reader
import CommandLine.Proofs.Item.Readable
import CommandLine.Proofs.Terminal.Number

/-!
# What readable items mean

The values of readable items, and the integer literals on which alone their conversion can fail:
the first literal that is at fault ends it, and if none is, the command of the items is what they
mean (`Command.ofTree_ofItems`).
-/

namespace CommandLine
open CommandLine.Text CommandLine.Numeral

/-- A result unless there is a fault. -/
def okUnless {ε α : Type} (fault? : Option ε) (result : α) : Except ε α :=
  match fault? with
  | some fault => .error fault
  | none => .ok result

theorem okUnless_map {ε α β : Type} (f : α → β) (fault? : Option ε) (result : α) :
    (okUnless fault? result).map f = okUnless fault? (f result) := by
  cases fault? <;> rfl

theorem okUnless_mapError {ε δ α : Type} (f : ε → δ) (fault? : Option ε) (result : α) :
    (okUnless fault? result).mapError f = okUnless (fault?.map f) result := by
  cases fault? <;> rfl

theorem findSome?_map_map {α β γ : Type} (f : α → Option β) (g : β → γ) (xs : List α) :
    xs.findSome? (fun x => (f x).map g) = (xs.findSome? f).map g := by
  induction xs with
  | nil => rfl
  | cons x xs ih =>
    rw [List.findSome?_cons, List.findSome?_cons, ih]
    cases f x <;> rfl

/-! ## Integer literals -/

/-- An integer literal of a line: the token that it is in, its text, and the kind of node that it
is converted at. -/
structure Literal where
  rule : Rule
  token : Token
  text : List Char

namespace Literal

/-- What is wrong with a literal, if anything. -/
def fault? (line : String) (l : Literal) : Option NodeFault :=
  if Tree.int64Digits < (Tree.significant l.text).length then
    some (Tree.tooLarge line (.offset l.token.start.offset) l.text)
  else if digitLimit < digitCount l.text then some (.tooManyDigits (digitCount l.text))
  else if Tree.int64Min ≤ valueOf l.text ∧ valueOf l.text ≤ Tree.int64Max then none
  else some (Tree.tooLarge line (.offset l.token.start.offset) l.text)

/-- What stands in the way of a literal's value, if anything. -/
def obstacle? (line : String) (l : Literal) : Option Obstacle :=
  (l.fault? line).map (.atNode (.rule l.rule))

/-- How the conversion of a line fails at a literal, if it does. -/
def failure? (line : String) (l : Literal) : Option Failure :=
  (l.obstacle? line).map Obstacle.toFailure

/-- A literal of an integer that fits in 64 bits, and of which it is told that it does. -/
structure Fits (l : Literal) : Prop where
  significant : (Tree.significant l.text).length ≤ Tree.int64Digits
  digits : digitCount l.text ≤ digitLimit
  least : Tree.int64Min ≤ valueOf l.text
  greatest : valueOf l.text ≤ Tree.int64Max

theorem fault?_eq_none_iff {line : String} {l : Literal} : l.fault? line = none ↔ l.Fits := by
  constructor
  · intro h
    unfold fault? at h
    split at h
    · simp at h
    split at h
    · simp at h
    split at h
    · exact ⟨by omega, by omega, by omega, by omega⟩
    · simp at h
  · rintro ⟨significant, digits, least, greatest⟩
    rw [fault?, if_neg (by omega), if_neg (by omega), if_pos ⟨least, greatest⟩]

theorem failure?_eq_none_iff {line : String} {l : Literal} : l.failure? line = none ↔ l.Fits := by
  rw [failure?, obstacle?, Option.map_eq_none_iff, Option.map_eq_none_iff, fault?_eq_none_iff]

end Literal

/-- A literal is converted to its value unless something is wrong with it. -/
theorem Tree.int64_of_isLiteral (line shown : String) (r : Rule) (token : Token) {cs : List Char}
    (h : IsLiteral cs) :
    int64 line (.offset token.start.offset) shown cs =
      okUnless (Literal.fault? line ⟨r, token, cs⟩) (valueOf cs) := by
  rw [int64, readInteger_of_isLiteral h, Literal.fault?]
  by_cases long : int64Digits < (significant cs).length
  · rw [if_pos long, if_pos long]
    rfl
  rw [if_neg long, if_neg long]
  by_cases many : digitLimit < digitCount cs
  · rw [if_pos many, if_pos many]
    rfl
  rw [if_neg many, if_neg many]
  by_cases fits : int64Min ≤ valueOf cs ∧ valueOf cs ≤ int64Max
  · rw [if_pos fits]
    exact if_pos fits
  · rw [if_neg fits]
    exact if_neg fits

/-! ## Meanings -/

/-- The text before the dots of a range. -/
def lowText (cs : List Char) : List Char := cs.takeWhile (· != '.')

/-- The text behind the dots of a range. -/
def highText (cs : List Char) : List Char := (cs.dropWhile (· != '.')).drop 2

/-- The integer literals of a token. -/
def Scalar.literals (token : Token) : Scalar → List Literal
  | int => [⟨.int, token, token.text.toList⟩]
  | range =>
    [⟨.range, token, lowText token.text.toList⟩, ⟨.range, token, highText token.text.toList⟩]
  | rangeTo => [⟨.rangeTo, token, highText token.text.toList⟩]
  | _ => []

/-- The value that a text means. -/
def Scalar.meaning (text : String) : Scalar → Value
  | range => .range (valueOf (lowText text.toList)) (valueOf (highText text.toList))
  | rangeTo => .range 0 (valueOf (highText text.toList))
  | bool => Tree.boolValue text
  | float => .float ((Double.read? text.toList).getD .nan)
  | int => .int (valueOf text.toList)
  | quoted => .string (String.ofList (decodeString text.toList))
  | bareword => .string text

namespace Phrase

mutual

/-- The integer literals of a value. -/
def literals : Phrase → List Literal
  | scalar form token => form.literals token
  | list elements => literalsAll elements

/-- The integer literals of some values. -/
def literalsAll : List Phrase → List Literal
  | [] => []
  | p :: ps => literals p ++ literalsAll ps

end

mutual

/-- The value that a phrase means. -/
def meaning : Phrase → Value
  | scalar form token => form.meaning token.text
  | list elements => .list (meanings elements)

/-- The values that some phrases mean. -/
def meanings : List Phrase → List Value
  | [] => []
  | p :: ps => meaning p :: meanings ps

end

end Phrase

namespace Item

/-- The integer literals of an item. -/
def literals : Item → List Literal
  | keyword _ phrase => phrase.literals
  | flag _ => []
  | value phrase => phrase.literals

/-- What an item says. -/
def entry : Item → Command.Entry Value
  | keyword key phrase => .binding (Command.keyName key.text) phrase.meaning
  | flag token => .binding (Command.flagName token.text) (.bool true)
  | value phrase => .argument phrase.meaning

end Item

/-! ## Other places -/

/-- A literal with its token in another place. -/
def Literal.placed (f : Position → Position) (l : Literal) : Literal :=
  ⟨l.rule, l.token.placed f, l.text⟩

section Placed

variable (f : Position → Position)

theorem Literal.fits_placed {l : Literal} : (l.placed f).Fits ↔ l.Fits :=
  ⟨fun ⟨a, b, c, d⟩ => ⟨a, b, c, d⟩, fun ⟨a, b, c, d⟩ => ⟨a, b, c, d⟩⟩

theorem Scalar.literals_placed (form : Scalar) (token : Token) :
    form.literals (token.placed f) = (form.literals token).map (Literal.placed f) := by
  cases form <;> rfl

namespace Phrase

mutual

theorem literals_placed : ∀ p : Phrase,
    (p.placed f).literals = p.literals.map (Literal.placed f)
  | scalar form token => Scalar.literals_placed f form token
  | list elements => literalsAll_placed elements

theorem literalsAll_placed : ∀ ps : List Phrase,
    literalsAll (placedAll f ps) = (literalsAll ps).map (Literal.placed f)
  | [] => rfl
  | p :: ps => by
    rw [placedAll, literalsAll, literals_placed p, literalsAll_placed ps, literalsAll,
      List.map_append]

end

mutual

theorem meaning_placed : ∀ p : Phrase, (p.placed f).meaning = p.meaning
  | scalar _ _ => rfl
  | list elements => congrArg Value.list (meanings_placed elements)

theorem meanings_placed : ∀ ps : List Phrase, meanings (placedAll f ps) = meanings ps
  | [] => rfl
  | p :: ps => by rw [placedAll, meanings, meaning_placed p, meanings_placed ps, meanings]

end

end Phrase

namespace Item

theorem literals_placed (item : Item) :
    (item.placed f).literals = item.literals.map (Literal.placed f) := by
  cases item with
  | keyword key phrase => exact Phrase.literals_placed f phrase
  | flag token => rfl
  | value phrase => exact Phrase.literals_placed f phrase

theorem flatMap_literals_placed (items : List Item) :
    (items.map (placed f)).flatMap literals =
      (items.flatMap literals).map (Literal.placed f) := by
  induction items with
  | nil => rfl
  | cons item items ih =>
    rw [List.map_cons, List.flatMap_cons, literals_placed, ih, List.flatMap_cons, List.map_append]

/-- What an item says does not depend on where its tokens are. -/
theorem entry_placed (item : Item) : (item.placed f).entry = item.entry := by
  cases item with
  | keyword key phrase =>
    exact congrArg (Command.Entry.binding _) (Phrase.meaning_placed f phrase)
  | flag token => rfl
  | value phrase => exact congrArg Command.Entry.argument (Phrase.meaning_placed f phrase)

theorem map_entry_placed (items : List Item) :
    (items.map (placed f)).map entry = items.map entry := by
  rw [List.map_map]
  exact List.map_congr_left fun item _ => entry_placed f item

theorem fits_placed (items : List Item) :
    (∀ l ∈ (items.map (placed f)).flatMap literals, l.Fits) ↔
      ∀ l ∈ items.flatMap literals, l.Fits := by
  rw [flatMap_literals_placed, List.forall_mem_map]
  exact ⟨fun h l member => (Literal.fits_placed f).1 (h l member),
    fun h l member => (Literal.fits_placed f).2 (h l member)⟩

/-- Items that differ in the places of their tokens alone say the same. -/
theorem alike_of_unplaced {items items' : List Item}
    (alike : items'.map unplaced = items.map unplaced) :
    items'.map entry = items.map entry ∧
      ((∀ l ∈ items'.flatMap literals, l.Fits) ↔ ∀ l ∈ items.flatMap literals, l.Fits) := by
  unfold unplaced at alike
  constructor
  · rw [← map_entry_placed _ items', alike, map_entry_placed]
  · rw [← fits_placed _ items', alike, fits_placed]

end Item

end Placed

/-! ## Conversion of tokens -/

namespace Tree

theorem splitDots_append {low : List Char} (h : ∀ c ∈ low, c ≠ '.') (passed high : List Char) :
    splitDots passed (low ++ '.' :: '.' :: high) =
      (passed.reverse ++ low) :: splitDots [] high := by
  induction low generalizing passed with
  | nil => simp [splitDots]
  | cons c low ih =>
    obtain ⟨here, later⟩ := List.forall_mem_cons.1 h
    have step : splitDots passed (c :: (low ++ '.' :: '.' :: high)) =
        splitDots (c :: passed) (low ++ '.' :: '.' :: high) := by
      rw [splitDots]
      rintro rest rfl
      exact absurd rfl here
    rw [List.cons_append, step, ih later]
    simp

theorem splitDots_of_ne {cs : List Char} (h : ∀ c ∈ cs, c ≠ '.') (passed : List Char) :
    splitDots passed cs = [passed.reverse ++ cs] := by
  induction cs generalizing passed with
  | nil => simp [splitDots]
  | cons c cs ih =>
    obtain ⟨here, later⟩ := List.forall_mem_cons.1 h
    have step : splitDots passed (c :: cs) = splitDots (c :: passed) cs := by
      rw [splitDots]
      rintro rest rfl
      exact absurd rfl here
    rw [step, ih later]
    simp

theorem ne_dot_of_isLiteral {cs : List Char} (h : IsLiteral cs) : ∀ c ∈ cs, c ≠ '.' := by
  have digits {ds : List Char} (h : IsDigits ds) : ∀ c ∈ ds, c ≠ '.' := fun c member =>
    ne_of_isAsciiDigit (h.2 c member) rfl
  cases h with
  | positive h => exact digits h
  | negative h => exact List.forall_mem_cons.2 ⟨by decide, digits h⟩

/-- The bounds of a range are what stands before and behind its dots. -/
theorem bounds_of_range {low high : List Char} (h : IsLiteral low) (h' : IsLiteral high) :
    lowText (low ++ '.' :: '.' :: high) = low ∧ highText (low ++ '.' :: '.' :: high) = high ∧
      splitDots [] (low ++ '.' :: '.' :: high) = [low, high] := by
  have plain := ne_dot_of_isLiteral h
  have kept : ∀ c ∈ low, (c != '.') = true := fun c member => by simpa using plain c member
  refine ⟨?_, ?_, ?_⟩
  · simp [lowText, List.takeWhile_append_of_pos kept]
  · simp [highText, List.dropWhile_append_of_pos kept]
  · rw [splitDots_append plain, splitDots_of_ne (ne_dot_of_isLiteral h')]
    rfl

variable {helpers : Helpers}

theorem convert_leaf {token : Token} {t : Terminal} (h : token.symbol = .terminal t)
    (line : String) : convert helpers line (leaf token) = .ok (.token token) := by
  rw [convert, h]
  rfl

theorem convert_single {r : Rule} (h : conversion? (.rule r) = some r) (line : String)
    (t : Tree) :
    convert helpers line (node (.rule r) [t]) =
      match convert helpers line t with
      | .error obstacle => .error obstacle
      | .ok piece => (convertNode line r [piece]).mapError (.atNode (.rule r)) := by
  rw [convert, convertAll]
  cases convert helpers line t with
  | error obstacle => rfl
  | ok piece => simp only [convertAll, Except.map, convertLabelled, h]

/-- The node around a value or a range passes on what is within. -/
theorem convert_passing {r : Rule} (h : r = .value ∨ r = .rangeExpr) (line : String) (t : Tree) :
    convert helpers line (node (.rule r) [t]) = convert helpers line t := by
  have known : conversion? (.rule r) = some r := by rcases h with rfl | rfl <;> rfl
  have passing (piece : Piece) : convertNode line r [piece] = .ok piece := by
    rcases h with rfl | rfl <;> rfl
  rw [convert_single known]
  cases convert helpers line t with
  | error obstacle => rfl
  | ok piece => simp only [passing]; rfl

/-- The node around a token converts the token's text. -/
theorem convert_token {r : Rule} {token : Token} {t : Terminal}
    (known : conversion? (.rule r) = some r) (symbol : token.symbol = .terminal t)
    (line : String) :
    convert helpers line (node (.rule r) [leaf token]) =
      (convertNode line r [.token token]).mapError (.atNode (.rule r)) := by
  rw [convert_single known, convert_leaf symbol]

section Tokens

variable {token : Token} {rest : List Char}

theorem convert_int (line : String) (symbol : token.symbol = .terminal (.scalar .int))
    (body : (Terminal.scalar .int).body token.text.toList = some (token.text.toList, rest)) :
    convert helpers line (node (.rule .int) [leaf token]) =
      okUnless ((Scalar.int.literals token).findSome? (Literal.obstacle? line))
        (.value (Scalar.int.meaning token.text)) := by
  have literal := Terminal.isLiteral_of_integer body
  rw [convert_token rfl symbol]
  simp only [convertNode, convertOne, Piece.written, Except.bind, convertText,
    int64_of_isLiteral line _ .int token literal, Scalar.literals, Scalar.meaning,
    List.findSome?_cons, List.findSome?_nil, Literal.obstacle?]
  cases Literal.fault? line ⟨.int, token, token.text.toList⟩ <;> rfl

theorem convert_rangeTo (line : String) (symbol : token.symbol = .terminal (.scalar .rangeTo))
    (body : (Terminal.scalar .rangeTo).body token.text.toList = some (token.text.toList, rest)) :
    convert helpers line (node (.rule .rangeTo) [leaf token]) =
      okUnless ((Scalar.rangeTo.literals token).findSome? (Literal.obstacle? line))
        (.value (Scalar.rangeTo.meaning token.text)) := by
  obtain ⟨beyond, text, literal⟩ := Terminal.rangeTo_text body
  have second : highText ('.' :: '.' :: beyond) = beyond := rfl
  rw [convert_token rfl symbol]
  simp only [convertNode, convertOne, Piece.written, Except.bind, convertText, bound, text,
    List.drop_succ_cons, List.drop_zero, int64_of_isLiteral line _ .rangeTo token literal,
    Scalar.literals, Scalar.meaning, second, List.findSome?_cons, List.findSome?_nil,
    Literal.obstacle?]
  cases Literal.fault? line ⟨.rangeTo, token, beyond⟩ <;> rfl

/-- Both bounds of a range are converted, and the first one that does not fit is blamed. -/
theorem convert_range (line : String) (symbol : token.symbol = .terminal (.scalar .range))
    (body : (Terminal.scalar .range).body token.text.toList = some (token.text.toList, rest)) :
    convert helpers line (node (.rule .range) [leaf token]) =
      okUnless ((Scalar.range.literals token).findSome? (Literal.obstacle? line))
        (.value (Scalar.range.meaning token.text)) := by
  obtain ⟨low, high, text, hlow, hhigh⟩ := Terminal.range_text body
  obtain ⟨first, second, pieces⟩ := bounds_of_range hlow hhigh
  rw [convert_token rfl symbol]
  simp only [convertNode, convertOne, Piece.written, Except.bind, convertText, rangeValue, text,
    pieces, bound, int64_of_isLiteral line _ .range token hlow,
    int64_of_isLiteral line _ .range token hhigh, Scalar.literals, Scalar.meaning, first, second,
    List.findSome?_cons, List.findSome?_nil, Literal.obstacle?]
  cases Literal.fault? line ⟨.range, token, low⟩ with
  | some fault => rfl
  | none => cases Literal.fault? line ⟨.range, token, high⟩ <;> rfl

/-- A token that reads as itself is converted to what it means, unless something is wrong with one
of its literals. -/
theorem convert_scalar (line : String) {sought : Terminal → Bool} {form : Scalar}
    (h : token.Reads sought (.scalar form)) :
    convert helpers line (ofPhrase (.scalar form token)) =
      okUnless ((form.literals token).findSome? (Literal.obstacle? line))
        (.value (form.meaning token.text)) := by
  obtain ⟨symbol, found⟩ := h
  obtain ⟨scanned, -⟩ := Item.follow_of_firstScan found
  have body := (Scanner.before_eq_some.1 scanned).1
  show convert helpers line (node (.rule .value) [wrap form.rules (leaf token)]) = _
  rw [convert_passing (.inl rfl)]
  cases form with
  | range => exact (convert_passing (.inr rfl) ..).trans (convert_range line symbol body)
  | rangeTo => exact (convert_passing (.inr rfl) ..).trans (convert_rangeTo line symbol body)
  | int => exact convert_int line symbol body
  | bool =>
    show convert helpers line (node (.rule .bool) [leaf token]) = _
    rw [convert_token rfl symbol]
    rfl
  | float =>
    -- What is spelt like a number is read as one, so nothing is wrong with it.
    obtain ⟨_, _, _, read⟩ := Terminal.read?_of_float body
    show convert helpers line (node (.rule .float) [leaf token]) = _
    rw [convert_token rfl symbol]
    simp only [convertNode, convertOne, Piece.written, Except.bind, convertText, floatValue, read,
      Scalar.meaning]
    rfl
  | quoted =>
    show convert helpers line (node (.rule .string) [node (.rule .inner) [leaf token]]) = _
    rw [convert_single rfl, convert_token rfl symbol]
    rfl
  | bareword =>
    show convert helpers line (node (.rule .string) [node (.rule .bareword) [leaf token]]) = _
    rw [convert_single rfl, convert_token rfl symbol]
    rfl

end Tokens

/-! ## Conversion of lines -/

theorem plainValues?_map_value (values : List Value) :
    Piece.plainValues? (values.map .value) = some values := by
  induction values with
  | nil => rfl
  | cons v values ih => rw [List.map_cons, Piece.plainValues?, ih]; rfl

theorem ofItems_map_value (values : List Value) :
    Piece.ofItems (values.map .value) = .value (.list values) := by
  rw [Piece.ofItems, plainValues?_map_value]

mutual

/-- A readable value is converted to what it means, unless something is wrong with one of its
literals. -/
theorem convert_ofPhrase (line : String) : ∀ (p : Phrase) {sought : Terminal → Bool},
    p.Readable sought →
    convert helpers line (ofPhrase p) =
      okUnless (p.literals.findSome? (Literal.obstacle? line)) (.value p.meaning)
  | .scalar form token, _, h => convert_scalar line h
  | .list elements, _, h => by
    have elementwise := convertAll_ofPhrases line elements h.2
    show convert helpers line (node (.rule .value) [node (.rule .list) (ofPhrases elements)]) = _
    rw [convert_passing (.inl rfl), convert, elementwise]
    simp only [Phrase.literals, Phrase.meaning]
    cases (Phrase.literalsAll elements).findSome? (Literal.obstacle? line) with
    | some obstacle => rfl
    | none => exact congrArg Except.ok (ofItems_map_value (Phrase.meanings elements))

theorem convertAll_ofPhrases (line : String) : ∀ ps : List Phrase, Phrase.AllReadable ps →
    convertAll helpers line (ofPhrases ps) =
      okUnless ((Phrase.literalsAll ps).findSome? (Literal.obstacle? line))
        ((Phrase.meanings ps).map .value)
  | [], _ => rfl
  | p :: ps, h => by
    rw [ofPhrases, convertAll, convert_ofPhrase line p h.1, convertAll_ofPhrases line ps h.2,
      Phrase.literalsAll, List.findSome?_append]
    cases p.literals.findSome? (Literal.obstacle? line) with
    | some obstacle => rfl
    | none => cases (Phrase.literalsAll ps).findSome? (Literal.obstacle? line) <;> rfl

end

end Tree

namespace Command

variable {helpers : Tree.Helpers}

theorem pieceOf_ofPhrase (helpers : Tree.Helpers) (line : String) {p : Phrase}
    {sought : Terminal → Bool} (h : p.Readable sought) :
    pieceOf helpers line (Tree.ofPhrase p) =
      okUnless (p.literals.findSome? (Literal.failure? line)) (.value p.meaning) := by
  have failures : p.literals.findSome? (Literal.failure? line) =
      (p.literals.findSome? (Literal.obstacle? line)).map Obstacle.toFailure :=
    findSome?_map_map _ _ _
  rw [pieceOf, Tree.convert_ofPhrase line p h, okUnless_mapError, failures]

/-- A readable item says what it means, unless something is wrong with one of its literals. -/
theorem entryOf_ofItem (line : String) {item : Item} (h : item.Readable) :
    entryOf helpers line (Tree.ofItem item) =
      okUnless (item.literals.findSome? (Literal.failure? line)) (item.entry.map .value) := by
  cases item with
  | keyword key phrase =>
    have piece := pieceOf_ofPhrase helpers line h.2
    show keywordOf helpers line [.leaf key, Tree.ofPhrase phrase] = _
    rw [keywordOf, piece]
    simp only [Item.literals, Item.entry]
    cases phrase.literals.findSome? (Literal.failure? line) <;> rfl
  | flag token => rfl
  | value phrase =>
    have piece := pieceOf_ofPhrase helpers line h
    obtain ⟨parts, same⟩ : ∃ parts, Tree.ofPhrase phrase = .node (.rule .value) parts := by
      cases phrase with
      | scalar form token => exact ⟨_, rfl⟩
      | list elements => exact ⟨_, rfl⟩
    show entryOf helpers line (Tree.ofPhrase phrase) = _
    rw [same, entryOf]
    show (pieceOf helpers line (.node (.rule .value) parts)).map Entry.argument = _
    rw [← same, piece, okUnless_map]
    rfl

theorem entriesOf_ofItems (line : String) (items : List Item) (h : ∀ item ∈ items, item.Readable) :
    entriesOf helpers line (items.map Tree.ofItem) =
      okUnless ((items.flatMap Item.literals).findSome? (Literal.failure? line))
        ((items.map Item.entry).map (Entry.map .value)) := by
  induction items with
  | nil => rfl
  | cons item items ih =>
    obtain ⟨hitem, hitems⟩ := List.forall_mem_cons.1 h
    rw [List.map_cons, entriesOf, entryOf_ofItem line hitem, ih hitems, List.flatMap_cons,
      List.findSome?_append]
    cases item.literals.findSome? (Literal.failure? line) with
    | some failure => rfl
    | none => cases (items.flatMap Item.literals).findSome? (Literal.failure? line) <;> rfl

/-- Readable items are assembled to the values that they mean, unless something is wrong with a
literal in them: then the first such literal is told. -/
theorem assemble_ofItems (line : String) (items : List Item)
    (h : ∀ item ∈ items, item.Readable) :
    assemble helpers line (Tree.ofItems items) =
      okUnless ((items.flatMap Item.literals).findSome? (Literal.failure? line))
        (.ofEntries ((items.map Item.entry).map (Entry.map .value))) := by
  rw [Tree.ofItems, assemble, entriesOf_ofItems line items h, okUnless_map]

/-- Readable items make up the command that they mean, unless something is wrong with a literal in
them. -/
theorem ofTree_ofItems (line : String) (items : List Item) (h : ∀ item ∈ items, item.Readable) :
    ofTree line (Tree.ofItems items) =
      okUnless ((items.flatMap Item.literals).findSome? (Literal.failure? line))
        (ofEntries (items.map Item.entry)) := by
  rw [ofTree, assemble_ofItems line items h, okUnless_map, Assembly.toCommand_ofEntries]

/-- The command of a line that is read to some items. -/
theorem parse_of_ofText {text : String} {items : List Item}
    (accepted : Item.ofText text.toList = .ok items) :
    parse text =
      okUnless ((items.flatMap Item.literals).findSome? (Literal.failure? text))
        (ofEntries (items.map Item.entry)) := by
  obtain ⟨readable, -⟩ := Item.readable_and_layout_of_ofText accepted
  by_cases nothing : text.isEmpty = true
  · have empty : text = "" := String.isEmpty_iff.1 nothing
    subst empty
    have none : items = [] := Except.ok.inj (accepted.symm.trans Item.ofText_nil)
    subst none
    rfl
  · rw [parse, if_neg nothing, Tree.parse, accepted]
    exact ofTree_ofItems text items readable

/-- A line that is read to some items says what these mean if all their literals fit. -/
theorem parse_eq_ok_iff {text : String} {items : List Item} {command : Command}
    (accepted : Item.ofText text.toList = .ok items) :
    parse text = .ok command ↔
      (∀ l ∈ items.flatMap Item.literals, l.Fits) ∧ ofEntries (items.map Item.entry) = command := by
  have fitting : (items.flatMap Item.literals).findSome? (Literal.failure? text) = none ↔
      ∀ l ∈ items.flatMap Item.literals, l.Fits := by
    simp only [List.findSome?_eq_none_iff, Literal.failure?_eq_none_iff]
  rw [parse_of_ofText accepted, ← fitting]
  cases (items.flatMap Item.literals).findSome? (Literal.failure? text) with
  | some failure => simp [okUnless]
  | none => simp [okUnless]

/-- A line that is not read is told where the reading stops. -/
theorem parse_of_rejection {text : String} {rejection : Rejection}
    (rejected : Item.ofText text.toList = .error rejection) :
    parse text = .error (.line (rejection.toError text)) := by
  by_cases nothing : text.isEmpty = true
  · have empty : text = "" := String.isEmpty_iff.1 nothing
    subst empty
    cases rejected.symm.trans Item.ofText_nil
  · rw [parse, if_neg nothing, Tree.parse, rejected]

end Command

end CommandLine
