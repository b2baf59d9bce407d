import CommandLine.Command.Reader
import CommandLine.Proofs.Item.Continuation
import Mathlib.Tactic.Choose

/-!
# Places of values

A text is read to the same value behind a keyword, alone between the brackets of a list and between
the commas of a list: `Tree.parse_keyword_iff_parse_list`. In all of these places it is a layout of
the value's lexemes, and neither a comma nor a bracket nor the end of the line changes how a lexeme
before it is read.
-/

namespace CommandLine
open CommandLine.Text

/-! ## Texts before the end of a value -/

/-- What may follow a terminal other than a flag does not depend on text behind which a value may
end. -/
theorem Terminal.follow_append {t : Terminal} (other : t ≠ flag) (cs : List Char)
    {rest : List Char} (ends : endsValue rest = true) : t.follow (cs ++ rest) = t.follow cs := by
  cases t with
  | key => exact noSlashes_append cs rest ends
  | flag => exact absurd rfl other
  | openBracket => rfl
  | comma => rfl
  | closeBracket => exact endsValue_append cs rest ends
  | scalar form => exact endsValue_append cs rest ends

namespace Layout

variable {lexemes more : List Lexeme} {cs rest : List Char}

/-- Two layouts one after the other, if a value may end between them. -/
theorem append (h : Layout lexemes cs) (plain : ∀ l ∈ lexemes, l.1 ≠ .flag)
    (ends : Terminal.endsValue rest = true) (tail : Layout more rest) :
    Layout (lexemes ++ more) (cs ++ rest) := by
  induction h with
  | blank blank => exact tail.gap_append blank
  | @lexeme gap text cs t lexemes blank follows _ ih =>
    obtain ⟨here, later⟩ := List.forall_mem_cons.1 plain
    have follows' : t.follow (cs ++ rest) = true :=
      (Terminal.follow_append here cs ends).trans follows
    have whole : Layout ((t, text) :: (lexemes ++ more)) (gap ++ text ++ (cs ++ rest)) :=
      .lexeme blank follows' (ih later)
    rwa [← List.append_assoc] at whole

/-- A layout whose last lexeme is a closing bracket is a layout of the others before it. -/
theorem exists_before_closeBracket (plain : ∀ l ∈ lexemes, l.1 ≠ .flag)
    (h : Layout (lexemes ++ [.closeBracket]) cs) :
    ∃ before gap, cs = before ++ ']' :: gap ∧ Blank gap ∧ Layout lexemes before := by
  induction lexemes generalizing cs with
  | nil =>
    cases h with
    | @lexeme gap _ rest _ _ blank follows tail =>
      cases tail with
      | blank behind => exact ⟨gap, rest, by simp, behind, .blank blank⟩
  | cons l lexemes ih =>
    obtain ⟨here, later⟩ := List.forall_mem_cons.1 plain
    cases h with
    | @lexeme gap text rest t _ blank follows tail =>
      obtain ⟨before, behind, rfl, blanks, laidOut⟩ := ih later tail
      have closes : Terminal.endsValue (']' :: behind) = true := rfl
      have follows' : t.follow before = true :=
        (Terminal.follow_append here before closes).symm.trans follows
      exact ⟨gap ++ text ++ before, behind, by simp, blanks, .lexeme blank follows' laidOut⟩

/-- The text between two brackets is a layout of what stands between them. -/
theorem of_brackets {text : List Char} (plain : ∀ l ∈ lexemes, l.1 ≠ .flag)
    (h : Layout (.openBracket :: (lexemes ++ [.closeBracket])) ('[' :: (text ++ [']']))) :
    Layout lexemes text := by
  generalize line : '[' :: (text ++ [']']) = cs at h
  cases h with
  | @lexeme gap _ rest _ _ blank follows tail =>
    obtain rfl : gap = [] := by
      cases gap with
      | nil => rfl
      | cons c gap =>
        obtain rfl : '[' = c := (List.cons.inj line).1
        exact absurd (blank '[' List.mem_cons_self) (by decide)
    obtain rfl : text ++ [']'] = rest := (List.cons.inj line).2
    obtain ⟨before, behind, split, blanks, laidOut⟩ := exists_before_closeBracket plain tail
    -- No blank stands behind the bracket, for it is the end of the text.
    rcases List.eq_nil_or_concat behind with rfl | ⟨init, c, rfl⟩
    · obtain rfl : text = before := List.append_cancel_right split
      exact laidOut
    · have ends : text ++ [']'] = before ++ ']' :: init ++ [c] := by simpa using split
      obtain ⟨-, last⟩ := List.append_inj' ends rfl
      obtain rfl : ']' = c := by simpa using last
      exact absurd (blanks ']' (by simp)) (by decide)

end Layout

namespace Phrase

mutual

theorem ne_flag_of_mem_lexemes : ∀ p : Phrase, ∀ l ∈ p.lexemes, l.1 ≠ .flag
  | scalar form token => by simp [lexemes]
  | list elements => by
    simpa [lexemes, Lexeme.openBracket, Lexeme.closeBracket, or_imp, forall_and] using
      ne_flag_of_mem_separated elements

theorem ne_flag_of_mem_separated : ∀ ps : List Phrase, ∀ l ∈ separated ps, l.1 ≠ .flag
  | [] => by simp [separated]
  | [p] => ne_flag_of_mem_lexemes p
  | p :: q :: ps => by
    have first := ne_flag_of_mem_lexemes p
    have others := ne_flag_of_mem_separated (q :: ps)
    simp only [separated]
    exact List.forall_mem_append.2 ⟨first, List.forall_mem_cons.2 ⟨by decide, others⟩⟩

end

/-- A text is a way to write a value where a value has to come. -/
structure Writes (p : Phrase) (text : List Char) : Prop where
  readable : p.Readable State.startsValue
  layout : Layout p.lexemes text

theorem Writes.spells {p : Phrase} {text : List Char} (h : p.Writes text) : p.Spells text :=
  fun _ _ ends tail => h.layout.append p.ne_flag_of_mem_lexemes ends tail

end Phrase

namespace Item

variable {name : List Char} {text : List Char}

/-! ## Behind a keyword -/

/-- Behind a name and a colon a text is read as a value, unless it begins with two slashes. -/
theorem ofText_keyword (h : Terminal.IsName name) (apart : Terminal.noSlashes text = true) :
    ofText (name ++ ':' :: text) =
      readFrom State.seeks (.awaiting [] (.keyword (.read .key (name ++ [':']) .start)))
        (Position.start.advance (name ++ [':'])) text := by
  have shifted : State.initial.shift .key (.read .key (name ++ [':']) .start) =
      some (.awaiting [] (.keyword (.read .key (name ++ [':']) .start))) := rfl
  have read := readFrom_of_reads (Terminal.reads_key h) shifted apart
  rwa [List.append_assoc] at read

theorem readable_keyword (h : Terminal.IsName name) :
    (Token.read .key (name ++ [':']) .start).Reads State.startsItem .key := by
  refine ⟨rfl, ?_⟩
  rw [Token.toList_text_read]
  exact firstScan_filter (Terminal.reads_key h) rfl

/-! ## Items in other places -/

/-- What differs from a keyword in places alone is a keyword whose value does. -/
theorem eq_of_unplaced_keyword {item : Item} {sample : Token} {p : Phrase}
    (alike : item.unplaced = (keyword sample p).unplaced) :
    ∃ key p', item = keyword key p' ∧ p'.unplaced = p.unplaced := by
  cases item with
  | keyword key p' => exact ⟨key, p', rfl, (keyword.inj alike).2⟩
  | flag token => cases alike
  | value p' => cases alike

/-- What differs from a list in places alone is a list whose elements do. -/
theorem eq_of_unplaced_list {item : Item} {ps : List Phrase}
    (alike : item.unplaced = (value (.list ps)).unplaced) :
    ∃ ps', item = value (.list ps') ∧ ps'.map Phrase.unplaced = ps.map Phrase.unplaced := by
  cases item with
  | keyword key p' => cases alike
  | flag token => cases alike
  | value p' =>
    cases p' with
    | scalar form token => cases alike
    | list ps' =>
      have lists := Phrase.list.inj (value.inj alike)
      rw [Phrase.placedAll_eq_map, Phrase.placedAll_eq_map] at lists
      exact ⟨ps', rfl, lists⟩

end Item

namespace Tree

/-! ## Lines that are one keyword or one list -/

/-- A line that is one keyword with a given value, but for the places of tokens. -/
def IsKeyword (text : String) (value : Tree) : Prop :=
  ∃ key value', parse text =
      .ok (node (.rule .command) [node (.rule .keyword) [leaf key, value']]) ∧
    value'.unplaced = value.unplaced

/-- A line that is one list with given elements, but for the places of tokens. -/
def IsList (text : String) (elements : List Tree) : Prop :=
  ∃ elements', parse text =
      .ok (node (.rule .command) [node (.rule .value) [node (.rule .list) elements']]) ∧
    elements'.map unplaced = elements.map unplaced

theorem ofItems_eq_keyword {items : List Item} {key : Token} {value : Tree}
    (h : ofItems items = node (.rule .command) [node (.rule .keyword) [leaf key, value]]) :
    ∃ p, items = [.keyword key p] ∧ ofPhrase p = value := by
  obtain ⟨item, rfl, tree⟩ := List.map_eq_singleton_iff.1 (node.inj h).2
  cases item with
  | keyword key' p =>
    obtain ⟨rfl, rfl⟩ : key' = key ∧ ofPhrase p = value := by simpa [ofItem] using tree
    exact ⟨p, rfl, rfl⟩
  | flag token => cases tree
  | value p => cases p <;> cases tree

theorem ofItems_eq_list {items : List Item} {elements : List Tree}
    (h : ofItems items =
      node (.rule .command) [node (.rule .value) [node (.rule .list) elements]]) :
    ∃ ps, items = [.value (.list ps)] ∧ ps.map ofPhrase = elements := by
  obtain ⟨item, rfl, tree⟩ := List.map_eq_singleton_iff.1 (node.inj h).2
  cases item with
  | keyword key p => cases tree
  | flag token => cases tree
  | value p =>
    cases p with
    | scalar form token => cases form <;> cases tree
    | list ps =>
      obtain rfl : ofPhrases ps = elements := by simpa [ofItem, ofPhrase, wrap] using tree
      exact ⟨ps, rfl, (ofPhrases_eq_map ps).symm⟩

theorem unplaced_ofPhrase (p : Phrase) : (ofPhrase p).unplaced = ofPhrase p.unplaced :=
  placed_ofPhrase _ p

/-- A line is one keyword if and only if the text behind the colon writes its value. -/
theorem isKeyword_iff {name text : String} (h : Terminal.IsName name.toList)
    (apart : Terminal.noSlashes text.toList = true) (x : Tree) :
    IsKeyword (name ++ ":" ++ text) x ↔
      ∃ p : Phrase, p.Writes text.toList ∧ (ofPhrase p).unplaced = x.unplaced := by
  have readable := Item.readable_keyword h
  have line : (name ++ ":" ++ text).toList = name.toList ++ ':' :: text.toList := by simp
  constructor
  · rintro ⟨key, value, parsed, alike⟩
    obtain ⟨items, read, tree⟩ := parse_eq_ok_iff.1 parsed
    obtain ⟨p, rfl, rfl⟩ := ofItems_eq_keyword tree
    have whole := (Item.readable_and_layout_of_ofText read).1 _ (List.mem_singleton.2 rfl)
    rw [line, Item.ofText_keyword h apart] at read
    have state : (State.awaiting []
        (.keyword (.read .key (name.toList ++ [':']) .start))).Readable := ⟨by simp, rfl, readable⟩
    obtain ⟨-, more, same, laidOut⟩ := Item.readable_and_layout_of_readFrom _ _ _ state read
    obtain ⟨-, rfl⟩ : _ ∧ p.lexemes = more := by
      simpa [Item.lexemes, State.lexemes, Slot.lexemes] using same
    exact ⟨p, ⟨whole.2, laidOut⟩, alike⟩
  · rintro ⟨p, writes, alike⟩
    let item : Item := .keyword (.read .key (name.toList ++ [':']) .start) p
    have laidOut : Layout ([item].flatMap Item.lexemes) (name ++ ":" ++ text).toList := by
      have whole : Layout ((.key, name.toList ++ [':']) :: p.lexemes)
          (name.toList ++ [':'] ++ text.toList) := Layout.cons apart writes.layout
      simpa [item, Item.lexemes] using whole
    obtain ⟨items, same, read⟩ := Item.exists_ofText_of_layout
      (List.forall_mem_singleton.2 (show item.Readable from ⟨readable, writes.readable⟩)) laidOut
    obtain ⟨item', rfl, one⟩ := List.map_eq_singleton_iff.1 same
    obtain ⟨key, p', rfl, value⟩ := Item.eq_of_unplaced_keyword one
    refine ⟨key, ofPhrase p', parse_eq_ok_iff.2 ⟨_, read, rfl⟩, ?_⟩
    rw [← alike, unplaced_ofPhrase, unplaced_ofPhrase, value]

/-- Texts that write values are read as the elements of a list. -/
theorem isList_of_writes {ι : Type} {phrase : ι → Phrase} {text : ι → String} {xs : List ι}
    (nonempty : xs ≠ []) (writes : ∀ x ∈ xs, (phrase x).Writes (text x).toList) :
    IsList ("[" ++ ",".intercalate (xs.map text) ++ "]") (xs.map fun x => ofPhrase (phrase x)) := by
  let item : Item := .value (.list (xs.map phrase))
  have readable : item.Readable := by
    refine ⟨by simpa using nonempty, Phrase.allReadable_iff.2 ?_⟩
    exact List.forall_mem_map.2 fun x member => (writes x member).readable
  have laidOut : Layout ([item].flatMap Item.lexemes)
      ("[" ++ ",".intercalate (xs.map text) ++ "]").toList := by
    have blank : Blank [] := by simp [Blank]
    have each : ∀ x ∈ xs, (phrase x).Spells (text x).toList :=
      fun x member => (writes x member).spells
    have spelt := Phrase.spells_list blank each [] [] rfl Layout.nil
    simpa [item, Item.lexemes, Function.comp_def] using spelt
  obtain ⟨items, same, read⟩ :=
    Item.exists_ofText_of_layout (List.forall_mem_singleton.2 readable) laidOut
  obtain ⟨item', rfl, one⟩ := List.map_eq_singleton_iff.1 same
  obtain ⟨ps, rfl, each⟩ := Item.eq_of_unplaced_list one
  refine ⟨ps.map ofPhrase, parse_eq_ok_iff.2 ⟨_, read, ?_⟩, ?_⟩
  · simp [ofItems, ofItem, ofPhrase, wrap, ofPhrases_eq_map]
  · have trees := congrArg (List.map ofPhrase) each
    simpa [Function.comp_def, unplaced_ofPhrase] using trees

/-- A line is a list of one element if and only if the text between the brackets writes it. -/
theorem isList_singleton_iff {text : String} {x : Tree} :
    IsList ("[" ++ text ++ "]") [x] ↔
      ∃ p : Phrase, p.Writes text.toList ∧ (ofPhrase p).unplaced = x.unplaced := by
  constructor
  · rintro ⟨elements, parsed, alike⟩
    obtain ⟨items, read, tree⟩ := parse_eq_ok_iff.1 parsed
    obtain ⟨ps, rfl, rfl⟩ := ofItems_eq_list tree
    obtain ⟨readable, laidOut⟩ := Item.readable_and_layout_of_ofText read
    rw [List.map_map] at alike
    obtain ⟨p, rfl, same⟩ := List.map_eq_singleton_iff.1 alike
    have element := (readable _ (List.mem_singleton.2 rfl)).2.1
    have between : Layout p.lexemes text.toList := by
      apply Layout.of_brackets p.ne_flag_of_mem_lexemes
      simpa [Item.lexemes, Phrase.lexemes, Phrase.separated] using laidOut
    exact ⟨p, ⟨element, between⟩, same⟩
  · rintro ⟨p, writes, alike⟩
    have alone : ∀ q ∈ [p], q.Writes text.toList := List.forall_mem_singleton.2 writes
    obtain ⟨elements, parsed, same⟩ := isList_of_writes (by simp) alone
    exact ⟨elements, by simpa using parsed, by simpa [alike] using same⟩

/-- The element of a list of one value that is all of a tree. -/
def element? : Tree → Option Tree
  | .node (.rule .command) [.node (.rule .value) [.node (.rule .list) [x]]] => some x
  | _ => none

theorem exists_isList_of_element? (text : String)
    (one : ((parse text).toOption.bind element?).isSome = true) : ∃ x, IsList text [x] := by
  obtain ⟨x, found⟩ := Option.isSome_iff_exists.1 one
  cases parsed : parse text with
  | error error => simp [parsed, Except.toOption] at found
  | ok tree =>
    simp only [parsed, Except.toOption, Option.bind_some] at found
    unfold element? at found
    split at found
    · next y => exact ⟨y, [y], parsed, rfl⟩
    · cases found

/-- A text that does not begin with two slashes is one value behind a keyword if and only if it is
that value alone in a list, and texts that are values alone in lists are the elements of the list
that is written with them. -/
theorem parse_keyword_iff_parse_list :
    (∀ (name text : String) (x : Tree), Terminal.IsName name.toList →
      ¬ ['/', '/'] <+: text.toList →
      (IsKeyword (name ++ ":" ++ text) x ↔ IsList ("[" ++ text ++ "]") [x])) ∧
    ∀ parts : List (String × Tree), parts ≠ [] →
      (∀ part ∈ parts, IsList ("[" ++ part.1 ++ "]") [part.2]) →
      IsList ("[" ++ ",".intercalate (parts.map Prod.fst) ++ "]") (parts.map Prod.snd) := by
  constructor
  · intro name text x named apart
    have schemeless : Terminal.noSlashes text.toList = true := by
      unfold Terminal.noSlashes
      split
      · next rest same => exact absurd ⟨rest, same.symm⟩ apart
      · rfl
    rw [isKeyword_iff named schemeless, isList_singleton_iff]
  · intro parts nonempty each
    -- Every text writes some value that differs from its tree in places alone.
    have : Nonempty Phrase := ⟨.list []⟩
    choose! phrase writes alike using fun part member => isList_singleton_iff.1 (each part member)
    obtain ⟨elements, parsed, same⟩ := isList_of_writes nonempty writes
    refine ⟨elements, parsed, same.trans ?_⟩
    rw [List.map_map, List.map_map]
    exact List.map_congr_left alike

theorem parse_keyword_iff_parse_list_nested : ∃ x y,
    IsKeyword ("k/" ++ ":" ++ " [1,\"]\"]") x ∧
      IsList ("[" ++ ",".intercalate [" [1,\"]\"]", "a:b"] ++ "]") [x, y] := by
  obtain ⟨x, first⟩ := exists_isList_of_element? ("[" ++ " [1,\"]\"]" ++ "]") (by decide +kernel)
  obtain ⟨y, second⟩ := exists_isList_of_element? ("[" ++ "a:b" ++ "]") (by decide +kernel)
  have named : Terminal.IsName "k/".toList := by
    refine ⟨by decide, fun c member => Terminal.isKey_iff.1 ?_, by decide, by decide, by decide⟩
    exact List.all_eq_true.1 (by decide : "k/".toList.all Terminal.isKey = true) c member
  refine ⟨x, y, (parse_keyword_iff_parse_list.1 "k/" " [1,\"]\"]" x named (by decide)).2 first, ?_⟩
  have parts : ∀ part ∈ [(" [1,\"]\"]", x), ("a:b", y)], IsList ("[" ++ part.1 ++ "]") [part.2] :=
    List.forall_mem_cons.2 ⟨first, List.forall_mem_singleton.2 second⟩
  exact parse_keyword_iff_parse_list.2 [(" [1,\"]\"]", x), ("a:b", y)] (by simp) parts

end Tree

end CommandLine
