import CommandLine.Proofs.Item.Acceptance
import CommandLine.Proofs.Item.Meaning
import CommandLine.Proofs.Terminal.Spelling

/-!
# Commands written as lines

Values are written as literals, and a command as the literals of its values with blanks between
them, behind their names if they have some. Reading the line gives the command
(`Command.parse_literal`).
-/

namespace CommandLine
open CommandLine.Text CommandLine.Numeral

/-! ## Bindings made anew -/

theorem Bindings.entries_foldl_insert {α : Type} (entries : List (String × α)) (b : Bindings α)
    (distinct : ((b.entries ++ entries).map Prod.fst).Nodup) :
    (entries.foldl (fun b e => b.insert e.1 e.2) b).entries = b.entries ++ entries := by
  induction entries generalizing b with
  | nil => simp
  | cons e entries ih =>
    have fresh : e.1 ∉ b.names := by
      intro known
      rw [List.map_append, List.nodup_append] at distinct
      exact distinct.2.2 _ known _ List.mem_cons_self rfl
    have behind : (b.insert e.1 e.2).entries = b.entries ++ [e] := by
      rw [insert, dif_neg fresh]
    have distinct' : (((b.insert e.1 e.2).entries ++ entries).map Prod.fst).Nodup := by
      simpa [behind] using distinct
    rw [List.foldl_cons, ih _ distinct', behind]
    simp

/-- Bindings are made by binding their names in order. -/
theorem Bindings.ofList_entries {α : Type} (b : Bindings α) : ofList b.entries = b := by
  have same : (ofList b.entries).entries = b.entries :=
    entries_foldl_insert b.entries empty b.distinct
  cases made : ofList b.entries with
  | mk entries distinct =>
    obtain rfl : entries = b.entries := by rwa [made] at same
    rfl

/-! ## Values -/

namespace Value

mutual

/-- A value as it is written on a line. -/
def literal : Value → List Char
  | string s => encodeString s.toList
  | bool b => (if b then "true" else "false").toList
  | int n => decimalChars n
  | float x => x.text.toList
  | list items => '[' :: [','].intercalate (literals items) ++ [']']
  | range first beyond => decimalChars first ++ '.' :: '.' :: decimalChars beyond

/-- Some values as they are written on a line. -/
def literals : List Value → List (List Char)
  | [] => []
  | v :: vs => literal v :: literals vs

end

/-- An integer of 64 bits. -/
def IsInt64 (n : Int) : Prop := Tree.int64Min ≤ n ∧ n ≤ Tree.int64Max

mutual

/-- A value whose literal is read as that value. Literals have no empty list and no string that
ends in a backslash. -/
def Writable : Value → Prop
  | string s => s.toList.getLast? ≠ some '\\'
  | bool _ => True
  | int n => IsInt64 n
  | float _ => False
  | list items => items ≠ [] ∧ AllWritable items
  | range first beyond => IsInt64 first ∧ IsInt64 beyond

/-- Some values whose literals are read as them. -/
def AllWritable : List Value → Prop
  | [] => True
  | v :: vs => Writable v ∧ AllWritable vs

end

/-- A value of one token with a given text. -/
def word (form : Scalar) (text : List Char) : Phrase :=
  .scalar form (.read (.scalar form) text .start)

mutual

/-- What the literal of a value is read to. -/
def phrase : Value → Phrase
  | string s => word .quoted (encodeString s.toList)
  | bool b => word .bool (if b then "true" else "false").toList
  | int n => word .int (decimalChars n)
  | float x => word .float x.text.toList
  | list items => .list (phrases items)
  | range first beyond => word .range (decimalChars first ++ '.' :: '.' :: decimalChars beyond)

/-- What the literals of some values are read to. -/
def phrases : List Value → List Phrase
  | [] => []
  | v :: vs => phrase v :: phrases vs

end

theorem literals_eq_map (vs : List Value) : literals vs = vs.map literal := by
  induction vs with
  | nil => rfl
  | cons v vs ih => rw [literals, ih, List.map_cons]

theorem phrases_eq_map (vs : List Value) : phrases vs = vs.map phrase := by
  induction vs with
  | nil => rfl
  | cons v vs ih => rw [phrases, ih, List.map_cons]

/-! ### Literals are read -/

theorem spells_word (form : Scalar) (text : List Char) : (word form text).Spells text := by
  have spelt := Phrase.spells_scalar form (.read (.scalar form) text .start)
  rwa [Token.toList_text_read] at spelt

mutual

theorem spells_phrase : ∀ v : Value, v.phrase.Spells v.literal
  | string _ => spells_word _ _
  | bool _ => spells_word _ _
  | int _ => spells_word _ _
  | float _ => spells_word _ _
  | range _ _ => spells_word _ _
  | list items => by
    have blank : Blank [] := by simp [Blank]
    rw [phrase, literal, phrases_eq_map, literals_eq_map]
    exact Phrase.spells_list blank (spells_phrases items)

theorem spells_phrases : ∀ vs : List Value, ∀ v ∈ vs, v.phrase.Spells v.literal
  | [] => by simp
  | v :: vs => List.forall_mem_cons.2 ⟨spells_phrase v, spells_phrases vs⟩

end

theorem readable_word {form : Scalar} {text : List Char} {sought : Terminal → Bool}
    (h : (Terminal.scalar form).Reads text) (looked : sought (.scalar form) = true) :
    (word form text).Readable sought := by
  refine ⟨rfl, ?_⟩
  rw [Token.toList_text_read]
  exact Item.firstScan_filter h looked

theorem reads_encodeString {cs : List Char} (last : cs.getLast? ≠ some '\\') :
    (Terminal.scalar .quoted).Reads (encodeString cs) :=
  Terminal.reads_quoted (Terminal.inside_escapeQuotes (by simp) last)

mutual

theorem readable_phrase : ∀ (v : Value) {sought : Terminal → Bool}, v.Writable →
    (∀ t, State.startsValue t = true → sought t = true) → v.phrase.Readable sought
  | string _, _, h, looked => readable_word (reads_encodeString h) (looked _ rfl)
  | bool b, _, _, looked => readable_word (Terminal.reads_bool b) (looked _ rfl)
  | int n, _, _, looked =>
    readable_word (Terminal.reads_int (isLiteral_decimalChars n)) (looked _ rfl)
  | range first beyond, _, _, looked =>
    readable_word (Terminal.reads_range (isLiteral_decimalChars first)
      (isLiteral_decimalChars beyond)) (looked _ rfl)
  | list items, _, h, _ => by
    refine ⟨?_, readable_phrases items h.2⟩
    simpa [phrases_eq_map] using h.1

theorem readable_phrases : ∀ vs : List Value, AllWritable vs → Phrase.AllReadable (phrases vs)
  | [], _ => trivial
  | v :: vs, h => ⟨readable_phrase v h.1 fun _ starts => starts, readable_phrases vs h.2⟩

end

/-! ### Literals mean their values -/

theorem bounds_of_decimalChars (first beyond : Int) :
    lowText (decimalChars first ++ '.' :: '.' :: decimalChars beyond) = decimalChars first ∧
      highText (decimalChars first ++ '.' :: '.' :: decimalChars beyond) = decimalChars beyond := by
  obtain ⟨low, high, -⟩ :=
    Tree.bounds_of_range (isLiteral_decimalChars first) (isLiteral_decimalChars beyond)
  exact ⟨low, high⟩

theorem decodeString_encodeString (cs : List Char) : decodeString (encodeString cs) = cs := by
  have inside : ((encodeString cs).drop 1).dropLast = escapeQuotes cs := by
    simp [encodeString]
  rw [decodeString, inside, unescapeQuotes_escapeQuotes]

mutual

theorem meaning_phrase : ∀ v : Value, v.Writable → v.phrase.meaning = v
  | string s, _ => by
    simp [phrase, word, Phrase.meaning, Scalar.meaning, Token.read, decodeString_encodeString]
  | bool b, _ => by cases b <;> rfl
  | int n, _ => by
    simp [phrase, word, Phrase.meaning, Scalar.meaning, Token.read, valueOf_decimalChars]
  | range first beyond, _ => by
    obtain ⟨low, high⟩ := bounds_of_decimalChars first beyond
    simp [phrase, word, Phrase.meaning, Scalar.meaning, Token.read, low, high,
      valueOf_decimalChars]
  | list items, h => congrArg Value.list (meanings_phrases items h.2)

theorem meanings_phrases : ∀ vs : List Value, AllWritable vs →
    Phrase.meanings (phrases vs) = vs
  | [], _ => rfl
  | v :: vs, h => by
    rw [phrases, Phrase.meanings, meaning_phrase v h.1, meanings_phrases vs h.2]

end

theorem fits_decimalChars {n : Int} (h : IsInt64 n) (r : Rule) (token : Token) :
    Literal.Fits ⟨r, token, decimalChars n⟩ := by
  obtain ⟨least, greatest⟩ := h
  -- The bounds of 64 bits have nineteen digits.
  have small : n.natAbs < Nat.pow 10 (18 + 1) := by
    have bound : Nat.pow 10 (18 + 1) = 10000000000000000000 := rfl
    unfold Tree.int64Min at least
    unfold Tree.int64Max at greatest
    omega
  have digits := length_digits_le small
  have significant : (Tree.significant (decimalChars n)).length ≤ 18 + 1 := by
    refine Nat.le_trans (List.dropWhile_sublist _).length_le ?_
    cases n with
    | ofNat n => exact Nat.le_trans (List.dropWhile_sublist _).length_le digits
    | negSucc n =>
      show ((Numeral.digits (n + 1)).dropWhile (· == '-')).length ≤ _
      exact Nat.le_trans (List.dropWhile_sublist _).length_le digits
  have count := digitCount_decimalChars small
  refine ⟨significant, Nat.le_trans count (by decide), ?_, ?_⟩
  · rwa [valueOf_decimalChars]
  · rwa [valueOf_decimalChars]

mutual

theorem fits_phrase : ∀ v : Value, v.Writable → ∀ l ∈ v.phrase.literals, l.Fits
  | string s, _ => by simp [phrase, word, Phrase.literals, Scalar.literals]
  | bool b, _ => by simp [phrase, word, Phrase.literals, Scalar.literals]
  | int n, h => by
    simpa [phrase, word, Phrase.literals, Scalar.literals, Token.read] using
      fits_decimalChars h _ _
  | range first beyond, h => by
    obtain ⟨low, high⟩ := bounds_of_decimalChars first beyond
    simpa [phrase, word, Phrase.literals, Scalar.literals, Token.read, low, high] using
      ⟨fits_decimalChars h.1 _ _, fits_decimalChars h.2 _ _⟩
  | list items, h => fits_phrases items h.2

theorem fits_phrases : ∀ vs : List Value, AllWritable vs →
    ∀ l ∈ Phrase.literalsAll (phrases vs), l.Fits
  | [], _ => by simp [phrases, Phrase.literalsAll]
  | v :: vs, h => by
    rw [phrases, Phrase.literalsAll]
    exact List.forall_mem_append.2 ⟨fits_phrase v h.1, fits_phrases vs h.2⟩

end

theorem decimalChars_head (n : Int) (rest : List Char) :
    ∃ c tail, decimalChars n ++ rest = c :: tail ∧ c ≠ '/' := by
  obtain ⟨c, tail, same, -⟩ := (isLiteral_decimalChars n).head
  have first := Terminal.isLiteral_chars (isLiteral_decimalChars n) c (same ▸ List.mem_cons_self)
  refine ⟨c, tail ++ rest, by rw [same]; rfl, ?_⟩
  rcases first with digit | rfl
  · exact ne_of_isAsciiDigit digit rfl
  · decide

/-- No literal begins with a slash, which could make the name before it a scheme. -/
theorem literal_head : ∀ v : Value, v.Writable → ∃ c tail, v.literal = c :: tail ∧ c ≠ '/'
  | string _, _ => ⟨'"', _, rfl, by decide⟩
  | bool b, _ => by cases b <;> exact ⟨_, _, rfl, by decide⟩
  | int n, _ => by simpa [literal] using decimalChars_head n []
  | range first _, _ => decimalChars_head first _
  | list _, _ => ⟨'[', _, rfl, by decide⟩

end Value

/-! ## Entries -/

namespace Command

namespace Entry

/-- An entry as it is written on a line. -/
def literal : Entry Value → List Char
  | argument v => v.literal
  | binding name v => name.toList ++ ':' :: v.literal

/-- What the literal of an entry is read to. -/
def item : Entry Value → Item
  | argument v => .value v.phrase
  | binding name v => .keyword (.read .key (name.toList ++ [':']) .start) v.phrase

/-- An entry whose literal is read as that entry. -/
def Writable : Entry Value → Prop
  | argument v => v.Writable
  | binding name v => Terminal.IsName name.toList ∧ v.Writable

theorem spells_item (entry : Entry Value) (h : entry.Writable) :
    entry.item.Spells entry.literal := by
  cases entry with
  | argument v => exact Item.spells_value v.spells_phrase
  | binding name v =>
    have blank : Blank [] := by simp [Blank]
    have spelt := Item.spells_keyword (.read .key (name.toList ++ [':']) .start) blank
      v.spells_phrase (v.literal_head h.2)
    simpa [literal, item, Token.read] using spelt

theorem readable_item (entry : Entry Value) (h : entry.Writable) : entry.item.Readable := by
  have starts : ∀ t, State.startsValue t = true → State.startsItem t = true := fun t value => by
    simp [State.startsItem, value]
  cases entry with
  | argument v => exact v.readable_phrase h starts
  | binding name v =>
    refine ⟨⟨rfl, ?_⟩, v.readable_phrase h.2 fun _ value => value⟩
    rw [Token.toList_text_read]
    exact Item.firstScan_filter (Terminal.reads_key h.1) rfl

theorem entry_item (entry : Entry Value) (h : entry.Writable) : entry.item.entry = entry := by
  cases entry with
  | argument v => exact congrArg argument (v.meaning_phrase h)
  | binding name v =>
    have named : keyName (Token.read .key (name.toList ++ [':']) .start).text = name := by
      simp [keyName, Token.read]
    rw [item, Item.entry, named, v.meaning_phrase h.2]

theorem fits_item (entry : Entry Value) (h : entry.Writable) :
    ∀ l ∈ entry.item.literals, l.Fits := by
  cases entry with
  | argument v => exact v.fits_phrase h
  | binding name v => exact v.fits_phrase h.2

end Entry

/-! ## Commands -/

/-- What a command says, one thing after the other: its values by place, then by name. -/
def entries (c : Command) : List (Entry Value) :=
  c.arguments.map .argument ++ c.bindings.entries.map fun e => .binding e.1 e.2

/-- A command as a line. -/
def literal (c : Command) : String :=
  String.ofList ([' '].intercalate (c.entries.map Entry.literal))

/-- A command whose line is read as that command. -/
structure Writable (c : Command) : Prop where
  arguments : ∀ v ∈ c.arguments, v.Writable
  names : ∀ e ∈ c.bindings.entries, Terminal.IsName e.1.toList
  bindings : ∀ e ∈ c.bindings.entries, e.2.Writable

theorem ofEntries_entries (c : Command) : ofEntries c.entries = c := by
  have values (vs : List Value) : (vs.map Entry.argument).filterMap Entry.argument? = vs ∧
      (vs.map Entry.argument).filterMap Entry.binding? = [] := by
    constructor <;> simp [List.filterMap_map, Function.comp_def, Entry.argument?, Entry.binding?]
  have bound (es : List (String × Value)) :
      (es.map fun e => Entry.binding e.1 e.2).filterMap Entry.argument? = [] ∧
      (es.map fun e => Entry.binding e.1 e.2).filterMap Entry.binding? = es := by
    constructor <;> simp [List.filterMap_map, Function.comp_def, Entry.argument?, Entry.binding?]
  simp only [ofEntries, entries, List.filterMap_append, values, bound, List.append_nil,
    List.nil_append, Bindings.ofList_entries]

/-- The line of a command is read as that command. -/
theorem parse_literal {c : Command} (h : c.Writable) : parse c.literal = .ok c := by
  have writable : ∀ e ∈ c.entries, e.Writable := by
    intro e member
    rcases List.mem_append.1 member with value | binding
    · obtain ⟨v, inside, rfl⟩ := List.mem_map.1 value
      exact h.arguments v inside
    · obtain ⟨b, inside, rfl⟩ := List.mem_map.1 binding
      exact ⟨h.names b inside, h.bindings b inside⟩
  have readable : ∀ item ∈ c.entries.map Entry.item, item.Readable :=
    List.forall_mem_map.2 fun e member => e.readable_item (writable e member)
  have layout : Layout ((c.entries.map Entry.item).flatMap Item.lexemes) c.literal.toList := by
    have laidOut := Item.layout_of_spells c.entries fun e member =>
      e.spells_item (writable e member)
    rwa [literal, String.toList_ofList]
  -- What is read differs from the entries in the places of its tokens, so it means the same.
  obtain ⟨items, alike, read⟩ := Item.exists_ofText_of_layout readable layout
  obtain ⟨entries, fits⟩ := Item.alike_of_unplaced alike
  refine (parse_eq_ok_iff read).2 ⟨fits.2 fun l member => ?_, ?_⟩
  · obtain ⟨item, among, inside⟩ := List.mem_flatMap.1 member
    obtain ⟨e, entry, rfl⟩ := List.mem_map.1 among
    exact e.fits_item (writable e entry) l inside
  · have said : (c.entries.map Entry.item).map Item.entry = c.entries := by
      rw [List.map_map]
      exact (List.map_congr_left fun e member => e.entry_item (writable e member)).trans
        (List.map_id _)
    rw [entries, said, ofEntries_entries]

theorem parse_literal_nested : ∃ c : Command,
    c.literal = "[[\"a\\\"\"],true] -9223372036854775808..-1 .:9223372036854775807 x..y:\"\"" ∧
      c.Writable ∧ parse c.literal = .ok c := by
  let c : Command := ⟨[.list [.list [.string "a\""], .bool true], .range Tree.int64Min (-1)],
    ⟨[(".", .int Tree.int64Max), ("x..y", .string "")], by decide⟩⟩
  have writable : c.Writable := by
    refine ⟨?_, ?_, ?_⟩
    · simp [c, Value.Writable, Value.AllWritable, Value.IsInt64, Tree.int64Min, Tree.int64Max]
    · have plain {name : List Char} (h : name.all Terminal.isKey = true) :=
        fun c member => Terminal.isKey_iff.1 (List.all_eq_true.1 h c member)
      refine List.forall_mem_cons.2 ⟨?_, List.forall_mem_singleton.2 ?_⟩
      · exact ⟨by decide, plain (by decide), by decide, by decide, by decide⟩
      · exact ⟨by decide, plain (by decide), by decide, by decide, by decide⟩
    · simp [c, Value.Writable, Value.IsInt64, Tree.int64Min, Tree.int64Max]
  exact ⟨c, by decide +kernel, writable, parse_literal writable⟩

end Command

end CommandLine
