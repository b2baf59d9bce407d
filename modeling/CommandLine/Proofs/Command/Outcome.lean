import CommandLine.Proofs.Command.Failure
import CommandLine.Proofs.Item.Order

/-!
# Outcomes of conversion

A line that is read gives a command exactly if all its integer literals are in range. If one is
not, the first such literal decides what is told (`Command.parse_outcome`).
-/

namespace CommandLine
open CommandLine.Text CommandLine.Numeral

/-! ## Literals that were read -/

theorem Token.Reads.isLiteral {sought : Terminal → Bool} {form : Scalar} {token : Token}
    (h : token.Reads sought (.scalar form)) : ∀ l ∈ form.literals token, IsLiteral l.text := by
  obtain ⟨-, found⟩ := h
  obtain ⟨scanned, -⟩ := Item.follow_of_firstScan found
  have body := (Scanner.before_eq_some.1 scanned).1
  cases form with
  | int => simpa [Scalar.literals] using Terminal.isLiteral_of_integer body
  | range =>
    obtain ⟨low, high, text, hlow, hhigh⟩ := Terminal.range_text body
    obtain ⟨first, second, -⟩ := Tree.bounds_of_range hlow hhigh
    simp [Scalar.literals, text, first, second, hlow, hhigh]
  | rangeTo =>
    obtain ⟨beyond, text, hbeyond⟩ := Terminal.rangeTo_text body
    have second : highText ('.' :: '.' :: beyond) = beyond := rfl
    simp [Scalar.literals, text, second, hbeyond]
  | _ => simp [Scalar.literals]

mutual

theorem Phrase.isLiteral_of_readable : ∀ (p : Phrase) {sought : Terminal → Bool},
    p.Readable sought → ∀ l ∈ p.literals, IsLiteral l.text
  | .scalar _ _, _, h => h.isLiteral
  | .list elements, _, h => isLiteral_of_allReadable elements h.2

theorem Phrase.isLiteral_of_allReadable : ∀ ps : List Phrase, AllReadable ps →
    ∀ l ∈ literalsAll ps, IsLiteral l.text
  | [], _ => by simp [literalsAll]
  | p :: ps, h =>
    List.forall_mem_append.2 ⟨isLiteral_of_readable p h.1, isLiteral_of_allReadable ps h.2⟩

end

theorem Item.isLiteral_of_readable {items : List Item} (h : ∀ item ∈ items, item.Readable) :
    ∀ l ∈ items.flatMap literals, IsLiteral l.text := by
  intro l member
  obtain ⟨item, among, inside⟩ := List.mem_flatMap.1 member
  cases item with
  | keyword key phrase => exact phrase.isLiteral_of_readable (h _ among).2 l inside
  | flag token => simp [literals] at inside
  | value phrase => exact phrase.isLiteral_of_readable (h _ among) l inside

/-! ## Ranges -/

namespace Literal

/-- A literal of an integer of 64 bits with no more digits than can be read. -/
structure InRange (l : Literal) : Prop where
  digits : digitCount l.text ≤ digitLimit
  least : Tree.int64Min ≤ valueOf l.text
  greatest : valueOf l.text ≤ Tree.int64Max

/-- A literal that can be told to be too large: it has too many digits behind its leading zeros,
or it can be read and is no integer of 64 bits. -/
def TooLarge (l : Literal) : Prop :=
  Tree.int64Digits < (Tree.significant l.text).length ∨
    digitCount l.text ≤ digitLimit ∧
      ¬ (Tree.int64Min ≤ valueOf l.text ∧ valueOf l.text ≤ Tree.int64Max)

variable {l : Literal}

theorem significant_of_isLiteral {cs : List Char} (h : IsLiteral cs) :
    Tree.significant cs = (splitSign cs).2.dropWhile (· == '0') := by
  have unsigned {ds : List Char} (digits : IsDigits ds) : ds.dropWhile (· == '-') = ds := by
    obtain ⟨c, ds, rfl⟩ := List.exists_cons_of_ne_nil digits.1
    have digit : c ≠ '-' := ne_of_isAsciiDigit (digits.2 c List.mem_cons_self) rfl
    exact List.dropWhile_cons_of_neg (by simpa using digit)
  cases h with
  | positive digits => rw [Tree.significant, unsigned digits, splitSign_of_isDigits digits]
  | @negative ds digits =>
    show (ds.dropWhile (· == '-')).dropWhile (· == '0') = _
    rw [unsigned digits]
    rfl

/-- An integer below a power of ten has at most that many digits behind its leading zeros. -/
theorem length_significant_le {cs : List Char} (h : IsLiteral cs) {k : Nat}
    (small : (valueOf cs).natAbs < Nat.pow 10 k) : (Tree.significant cs).length ≤ k := by
  have all := (isDigits_of_isLiteral h).2
  rw [natAbs_valueOf, ← magnitudeOf_dropWhile_zero] at small
  rw [significant_of_isLiteral h]
  have kept := fun c member =>
    all c ((List.dropWhile_sublist (· == '0') (l := (splitSign cs).2)).mem member)
  have first := List.head?_dropWhile_not (· == '0') (splitSign cs).2
  cases left : (splitSign cs).2.dropWhile (· == '0') with
  | nil => exact Nat.zero_le k
  | cons c rest =>
    rw [left] at small kept first
    -- What is left begins with a digit other than zero, so all its digits count.
    have nonzero : c ≠ '0' := by simpa using first
    have large := pow_le_magnitudeOf kept nonzero
    refine Nat.lt_of_not_le fun more => ?_
    have larger : Nat.pow 10 k ≤ Nat.pow 10 rest.length := Nat.pow_le_pow_right (by decide) more
    omega

/-- A literal fits exactly if it is in range: its value tells how many of its digits count. -/
theorem fits_iff_inRange (h : IsLiteral l.text) : l.Fits ↔ l.InRange := by
  constructor
  · rintro ⟨-, digits, least, greatest⟩
    exact ⟨digits, least, greatest⟩
  · rintro ⟨digits, least, greatest⟩
    refine ⟨length_significant_le h ?_, digits, least, greatest⟩
    have bound : Nat.pow 10 Tree.int64Digits = 10000000000000000000 := rfl
    unfold Tree.int64Min at least
    unfold Tree.int64Max at greatest
    omega

/-- Of a literal that can be told to be too large this is told, at the place of its token. -/
theorem failure?_of_tooLarge (h : l.TooLarge) (line : String) :
    l.failure? line =
      some (.line ⟨line, l.token.start.offset, [], .doesNotFit (String.ofList l.text)⟩) := by
  have fault : l.fault? line = some (Tree.tooLarge line (.offset l.token.start.offset) l.text) := by
    unfold fault?
    by_cases long : Tree.int64Digits < (Tree.significant l.text).length
    · rw [if_pos long]
    · obtain ⟨digits, outside⟩ := h.resolve_left long
      rw [if_neg long, if_neg (by omega), if_neg outside]
  rw [failure?, obstacle?, fault]
  rfl

/-- A literal that is neither in range nor can be told to be too large has too many digits to be
read. -/
theorem overlong_of_not (outside : ¬ l.InRange) (small : ¬ l.TooLarge) : l.Overlong := by
  obtain ⟨short, readable⟩ := not_or.1 small
  refine ⟨by omega, Nat.lt_of_not_le fun few => readable ⟨few, fun fits => ?_⟩⟩
  exact outside ⟨few, fits.1, fits.2⟩

end Literal

namespace Command

section

variable {text : String} {tree : Tree}

theorem isLiteral_of_parse (accepted : Tree.parse text = .ok tree) :
    ∀ l ∈ tree.literals, IsLiteral l.text := by
  obtain ⟨items, read, rfl⟩ := Tree.parse_eq_ok_iff.1 accepted
  obtain ⟨readable, -⟩ := Item.readable_and_layout_of_ofText read
  rw [Tree.literals_ofItems readable]
  exact Item.isLiteral_of_readable readable

/-- What a line says is what its tree makes up. -/
theorem ofTree_of_parse (accepted : Tree.parse text = .ok tree) :
    ofTree text tree = parse text := by
  obtain ⟨items, read, rfl⟩ := Tree.parse_eq_ok_iff.1 accepted
  obtain ⟨readable, -⟩ := Item.readable_and_layout_of_ofText read
  rw [ofTree_ofItems text items readable, parse_of_ofText read]

/-- A line that can be read gives a command if all its literals are in range, and only then. -/
theorem inRange_iff_of_parse (accepted : Tree.parse text = .ok tree) :
    (∃ command, parse text = .ok command) ↔ ∀ l ∈ tree.literals, l.InRange := by
  have literal := isLiteral_of_parse accepted
  obtain ⟨items, read, rfl⟩ := Tree.parse_eq_ok_iff.1 accepted
  obtain ⟨readable, -⟩ := Item.readable_and_layout_of_ofText read
  rw [Tree.literals_ofItems readable] at literal ⊢
  simp only [parse_eq_ok_iff read, exists_and_left, exists_eq', and_true]
  exact forall₂_congr fun l member => Literal.fits_iff_inRange (literal l member)

/-- The first literal of a line that something is wrong with decides how the line fails, if all
before it are in range. -/
theorem parse_of_first_literal (accepted : Tree.parse text = .ok tree)
    {before after : List Literal} {l : Literal} {failure : Failure}
    (split : tree.literals = before ++ l :: after) (fine : ∀ k ∈ before, k.InRange)
    (failed : l.failure? text = some failure) : parse text = .error failure := by
  have literal := isLiteral_of_parse accepted
  have fits : ∀ k ∈ before, k.Fits := fun k member =>
    (Literal.fits_iff_inRange (literal k (split ▸ List.mem_append_left _ member))).2
      (fine k member)
  obtain ⟨items, read, rfl⟩ := Tree.parse_eq_ok_iff.1 accepted
  obtain ⟨readable, -⟩ := Item.readable_and_layout_of_ofText read
  rw [Tree.literals_ofItems readable] at split
  exact parse_of_first read split fits failed

end

/-- The literals of a line stand in the order of its text. It gives a command if they are all in
range; else the first that is not is blamed as too large at the place of its token, if that can be
told, and if not the failure is that it has too many digits. -/
theorem parse_outcome {text : String} {tree : Tree} (accepted : Tree.parse text = .ok tree) :
    Literal.InOrder text.toList tree.literals ∧
    ofTree text tree = parse text ∧
    ((∃ command, parse text = .ok command) ↔ ∀ l ∈ tree.literals, l.InRange) ∧
    ∀ before l after, tree.literals = before ++ l :: after → (∀ k ∈ before, k.InRange) →
      ¬ l.InRange →
      (l.TooLarge → parse text = .error (.line
        ⟨text, l.token.start.offset, [], .doesNotFit (String.ofList l.text)⟩)) ∧
      (¬ l.TooLarge → parse text = .error (.tree
        (.unconvertible (.rule l.rule) (.tooManyDigits (digitCount l.text))))) := by
  refine ⟨?_, ofTree_of_parse accepted, inRange_iff_of_parse accepted, ?_⟩
  · obtain ⟨items, read, rfl⟩ := Tree.parse_eq_ok_iff.1 accepted
    obtain ⟨readable, -⟩ := Item.readable_and_layout_of_ofText read
    rw [Tree.literals_ofItems readable]
    exact Item.literals_inOrder read
  · intro before l after split fine outside
    constructor
    · intro large
      exact parse_of_first_literal accepted split fine (Literal.failure?_of_tooLarge large text)
    · intro small
      refine parse_of_first_literal accepted split fine ?_
      exact Literal.failure?_eq_tree_iff.2 ⟨Literal.overlong_of_not outside small, rfl⟩

/-- A value is converted even if a later one takes its name. -/
theorem parse_outcome_overwritten :
    parse "x:[1..9223372036854775808] x:1" =
      .error (.line
        ⟨"x:[1..9223372036854775808] x:1", 3, [], .doesNotFit "9223372036854775808"⟩) := by
  let token : Token :=
    .read (.scalar .range) "1..9223372036854775808".toList ⟨3, 1, 4⟩
  let last : Token := .read (.scalar .int) ['1'] ⟨29, 1, 30⟩
  let low : Literal := ⟨.range, token, ['1']⟩
  let high : Literal := ⟨.range, token, "9223372036854775808".toList⟩
  have accepted : Tree.parse "x:[1..9223372036854775808] x:1" = .ok (Tree.ofItems
      [.keyword (.read .key ['x', ':'] .start) (.list [.scalar .range token]),
        .keyword (.read .key ['x', ':'] ⟨27, 1, 28⟩) (.scalar .int last)]) := by cbv
  obtain ⟨-, -, -, outcome⟩ := parse_outcome accepted
  have inRange : ∀ k ∈ [low], k.InRange :=
    List.forall_mem_singleton.2 ⟨by decide, by decide, by decide⟩
  have outside : ¬ high.InRange := fun h => absurd h.greatest (by decide)
  exact (outcome [low] high [⟨.int, last, ['1']⟩] (by cbv) inRange outside).1
    (.inr ⟨by decide, fun h => absurd h.2 (by decide)⟩)

end Command

end CommandLine
