import CommandLine.Proofs.Text.Letter
import CommandLine.Proofs.Tree.Leaves
import CommandLine.Proofs.Tree.Word

/-!
# Names of flags

A flag is called by a letter or an underscore and what may follow it: every such name makes a flag.
There are other flags too. A word character that is no decimal digit may still be a numeral, a
fraction for example, and the names that have one are all that are not as they should be
(`Tree.flagNames_iff`).
-/

namespace CommandLine
open CommandLine.Text

namespace Terminal

variable {c : Char} {name : List Char}

/-- What a flag is meant to be called: a letter or an underscore, and behind it letters, decimal
digits, underscores and dashes. -/
def IsFlagName (name : List Char) : Prop :=
  ∃ c rest, name = c :: rest ∧ (isLetter c = true ∨ c = '_') ∧
    ∀ d ∈ rest, isLetter d = true ∨ isDigit d = true ∨ d = '_' ∨ d = '-'

/-- Numerals that are no decimal digits: fractions, exponents, Roman numerals and others. -/
def isOtherNumeral (c : Char) : Bool := isNumeral c && !isDigit c

theorem isOtherNumeral_of_isLetter (h : isLetter c = true) : isOtherNumeral c = false := by
  simp [isOtherNumeral, isNumeral_of_isLetter h]

theorem isOtherNumeral_of_isDigit (h : isDigit c = true) : isOtherNumeral c = false := by
  simp [isOtherNumeral, h]

/-- A numeral that is not another one is a decimal digit. -/
theorem isNumeral_iff (plain : isOtherNumeral c = false) :
    isNumeral c = true ↔ isDigit c = true := by
  constructor
  · intro numeral
    simpa [isOtherNumeral, numeral] using plain
  · exact isNumeral_of_isDigit

theorem isFlagStart_iff (plain : isOtherNumeral c = false) :
    isFlagStart c = true ↔ isLetter c = true ∨ c = '_' := by
  simp only [isFlagStart, isWordChar, Bool.and_eq_true, Bool.or_eq_true, isNumeral_iff plain,
    beq_iff_eq, Bool.not_eq_true']
  constructor
  · rintro ⟨(letter | digit) | underscore, noDigit⟩
    · exact .inl letter
    · rw [digit] at noDigit
      cases noDigit
    · exact .inr underscore
  · rintro (letter | rfl)
    · exact ⟨.inl (.inl letter), isDigit_of_isLetter letter⟩
    · exact ⟨.inr rfl, by decide +kernel⟩

theorem isFlag_iff (plain : isOtherNumeral c = false) :
    isFlag c = true ↔ isLetter c = true ∨ isDigit c = true ∨ c = '_' ∨ c = '-' := by
  simp only [isFlag, isWordChar, Bool.or_eq_true, isNumeral_iff plain, beq_iff_eq, or_assoc]

theorem IsFlagName.plain (h : IsFlagName name) : ∀ c ∈ name, isOtherNumeral c = false := by
  obtain ⟨c, rest, rfl, start, inside⟩ := h
  have marks : isOtherNumeral '_' = false ∧ isOtherNumeral '-' = false := by decide +kernel
  refine List.forall_mem_cons.2 ⟨?_, ?_⟩
  · rcases start with letter | rfl
    · exact isOtherNumeral_of_isLetter letter
    · exact marks.1
  · intro d member
    rcases inside d member with letter | digit | rfl | rfl
    · exact isOtherNumeral_of_isLetter letter
    · exact isOtherNumeral_of_isDigit digit
    · exact marks.1
    · exact marks.2

/-- What flags are meant to be called is what they can be called without other numerals. -/
theorem isFlagName_iff :
    IsFlagName name ↔ IsFlagWord ('-' :: name) ∧ ∀ c ∈ name, isOtherNumeral c = false := by
  constructor
  · intro named
    have plain := named.plain
    refine ⟨?_, plain⟩
    obtain ⟨c, rest, rfl, start, inside⟩ := named
    obtain ⟨first, others⟩ := List.forall_mem_cons.1 plain
    refine ⟨c, rest, rfl, (isFlagStart_iff first).2 start, ?_⟩
    intro d member
    exact (isFlag_iff (others d member)).2 (inside d member)
  · rintro ⟨⟨c, rest, same, start, inside⟩, plain⟩
    obtain rfl : name = c :: rest := (List.cons.inj same).2
    obtain ⟨first, others⟩ := List.forall_mem_cons.1 plain
    refine ⟨c, rest, rfl, (isFlagStart_iff first).1 start, ?_⟩
    intro d member
    exact (isFlag_iff (others d member)).1 (inside d member)

end Terminal

namespace Tree
open Terminal

/-- The names of the flags of a tree: the texts of their tokens without the dash. -/
def flagNames (t : Tree) : List (List Char) :=
  (t.tokens.filter fun token => token.symbol = .terminal .flag).map fun token =>
    token.text.toList.drop 1

variable {text : String} {tree : Tree} {name : List Char} {token : Token}

mutual

theorem no_flag_of_mem_tokens : ∀ (p : Phrase) {sought : Terminal → Bool}, p.Readable sought →
    ∀ token ∈ (ofPhrase p).tokens, token.symbol ≠ .terminal .flag
  | .scalar form token, _, h => by
    rw [tokens_scalar, List.forall_mem_singleton, h.1]
    simp
  | .list elements, _, h => by
    rw [tokens_list]
    exact List.forall_mem_flatMap.2 (no_flag_of_mem_tokensAll elements h.2)

theorem no_flag_of_mem_tokensAll : ∀ ps : List Phrase, Phrase.AllReadable ps →
    ∀ p ∈ ps, ∀ token ∈ (ofPhrase p).tokens, token.symbol ≠ .terminal .flag
  | [], _ => List.forall_mem_nil _
  | p :: ps, h =>
    List.forall_mem_cons.2 ⟨no_flag_of_mem_tokens p h.1, no_flag_of_mem_tokensAll ps h.2⟩

end

/-- The tokens of flags are those of the items that are flags. -/
theorem reads_of_mem_tokens {item : Item} (readable : item.Readable)
    (member : token ∈ (ofItem item).tokens) (flag : token.symbol = .terminal .flag) :
    token.Reads State.startsItem .flag := by
  cases item with
  | flag token' =>
    obtain rfl : token = token' := by simpa [ofItem, tokens_wrap, tokens] using member
    exact readable
  | value p => exact absurd flag (no_flag_of_mem_tokens p readable token member)
  | keyword key p =>
    have split : token = key ∨ token ∈ (ofPhrase p).tokens := by
      simpa [ofItem, tokens, tokensAll] using member
    rcases split with rfl | member
    · rw [readable.1.1] at flag
      cases flag
    · exact absurd flag (no_flag_of_mem_tokens p readable.2 token member)

theorem isFlagWord_of_mem_flagNames (parsed : parse text = .ok tree)
    (member : name ∈ tree.flagNames) : IsFlagWord ('-' :: name) := by
  obtain ⟨items, read, rfl⟩ := parse_eq_ok_iff.1 parsed
  obtain ⟨readable, -⟩ := Item.readable_and_layout_of_ofText read
  obtain ⟨token, among, rfl⟩ := List.mem_map.1 member
  obtain ⟨among, flag⟩ := List.mem_filter.1 among
  rw [tokens_ofItems] at among
  obtain ⟨item, member, inside⟩ := List.mem_flatMap.1 among
  have reads := reads_of_mem_tokens (readable item member) inside (by simpa using flag)
  obtain ⟨c, name, same, start, goesOn, -⟩ :=
    flag_scan_eq_some (Item.follow_of_firstScan reads.2).1
  rw [same]
  exact ⟨c, name, rfl, start, goesOn⟩

/-- A flag has such a name as it should exactly if there is no other numeral in it, and every name
as it should be makes that one flag and nothing else. -/
theorem flagNames_iff (text : String) (name : List Char) :
    (∀ tree, parse text = .ok tree → name ∈ tree.flagNames →
      (IsFlagName name ↔ ∀ c ∈ name, isOtherNumeral c = false)) ∧
    (IsFlagName name →
      parse (String.ofList ('-' :: name)) = .ok (flagWord ('-' :: name)) ∧
        (flagWord ('-' :: name)).flagNames = [name]) := by
  constructor
  · intro tree parsed member
    rw [isFlagName_iff]
    exact and_iff_right (isFlagWord_of_mem_flagNames parsed member)
  · intro named
    have flagged := (isFlagName_iff.1 named).1
    have same : (String.ofList ('-' :: name)).toList = '-' :: name := String.toList_ofList
    have word : IsFlagWord (String.ofList ('-' :: name)).toList := by rwa [same]
    have noKey : key.scan (String.ofList ('-' :: name)).toList = none := by
      rw [same]
      exact key_scan_dash name
    have parsed := parse_flagWord word.isWord word noKey
    rw [same] at parsed
    refine ⟨parsed, ?_⟩
    simp [flagNames, flagWord, tokens, tokensAll, Token.read]

theorem flagNames_letter :
    parse "-é-1" = .ok (flagWord ['-', 'é', '-', '1']) ∧
      (flagWord ['-', 'é', '-', '1']).flagNames = [['é', '-', '1']] ∧
      ∀ c ∈ ['é', '-', '1'], isOtherNumeral c = false := by
  have named : IsFlagName ['é', '-', '1'] := by
    refine ⟨'é', ['-', '1'], rfl, .inl (by decide +kernel), ?_⟩
    intro d member
    rcases List.mem_pair.1 member with rfl | rfl
    · exact .inr (.inr (.inr rfl))
    · exact .inr (.inl (by decide +kernel))
  obtain ⟨sound, complete⟩ := flagNames_iff "-é-1" ['é', '-', '1']
  obtain ⟨parsed, names⟩ := complete named
  have member : ['é', '-', '1'] ∈ (flagWord ['-', 'é', '-', '1']).flagNames := by
    rw [names]
    exact List.mem_singleton_self _
  exact ⟨parsed, names, (sound _ parsed member).1 named⟩

/-- A half is no letter, and yet makes a flag. -/
theorem flagNames_half :
    (∃ tree, parse "-½" = .ok tree ∧ ['½'] ∈ tree.flagNames) ∧ ¬ IsFlagName ['½'] := by
  have word : IsFlagWord "-½".toList := ⟨'½', [], rfl, by decide +kernel, by simp⟩
  refine ⟨⟨_, parse_flagWord word.isWord word (key_scan_dash _), by decide +kernel⟩, ?_⟩
  intro named
  have plain := named.plain '½' List.mem_cons_self
  revert plain
  decide +kernel

end Tree

end CommandLine
