import CommandLine.Proofs.Item.Acceptance
import CommandLine.Proofs.Item.Meaning
import CommandLine.Proofs.Terminal.Spelling

/-!
# How lines fail

A line gives a command or an error that blames the line, but for one case: an integer literal of
more than `digitLimit` digits of which so many are leading zeros that it does not seem too large
(`Command.parse_ok_or_line_iff`).
-/

namespace CommandLine
open CommandLine.Text CommandLine.Numeral

/-- A literal of too many digits to be read, although few of them are significant. -/
def Literal.Overlong (l : Literal) : Prop :=
  (Tree.significant l.text).length ≤ Tree.int64Digits ∧ digitLimit < digitCount l.text

/-- What is wrong with a literal is told about the line, unless the literal is overlong. -/
theorem Literal.failure?_eq_tree_iff {line : String} {l : Literal} {fault : TreeFault} :
    l.failure? line = some (.tree fault) ↔
      l.Overlong ∧ fault = .unconvertible (.rule l.rule) (.tooManyDigits (digitCount l.text)) := by
  unfold failure? obstacle? fault? Overlong
  by_cases long : Tree.int64Digits < (Tree.significant l.text).length
  · simp only [if_pos long, Tree.tooLarge, Option.map_some, Obstacle.toFailure]
    constructor
    · simp
    · rintro ⟨⟨short, -⟩, -⟩
      omega
  have short : (Tree.significant l.text).length ≤ Tree.int64Digits := by omega
  by_cases many : digitLimit < digitCount l.text
  · simp [if_neg long, many, short, Obstacle.toFailure, eq_comm]
  · simp only [if_neg long, many, if_false, and_false, false_and, iff_false]
    split <;> simp [Tree.tooLarge, Obstacle.toFailure]

namespace Command

/-- The first literal of a line that does not fit is overlong. All of the line can be read. -/
def OverlongFirst (text : String) : Prop :=
  ∃ items before l after, Item.ofText text.toList = .ok items ∧
    items.flatMap Item.literals = before ++ l :: after ∧ (∀ k ∈ before, k.Fits) ∧ l.Overlong

/-- The first literal that does not fit decides how a line fails. -/
theorem parse_of_first {text : String} {items : List Item} {before after : List Literal}
    {l : Literal} {failure : Failure} (read : Item.ofText text.toList = .ok items)
    (split : items.flatMap Item.literals = before ++ l :: after) (fine : ∀ k ∈ before, k.Fits)
    (failed : l.failure? text = some failure) : parse text = .error failure := by
  have first : (items.flatMap Item.literals).findSome? (Literal.failure? text) = some failure :=
    List.findSome?_eq_some_iff.2 ⟨before, l, after, split, failed, fun k member =>
      Literal.failure?_eq_none_iff.2 (fine k member)⟩
  rw [parse_of_ofText read, first]
  rfl

/-- Where a line is not blamed for its failure, the first literal that does not fit is overlong. -/
theorem parse_eq_tree_iff {text : String} :
    (∃ fault, parse text = .error (.tree fault)) ↔ OverlongFirst text := by
  constructor
  · rintro ⟨fault, failed⟩
    cases read : Item.ofText text.toList with
    | error rejection => simp [parse_of_rejection read] at failed
    | ok items =>
      rw [parse_of_ofText read] at failed
      cases first : (items.flatMap Item.literals).findSome? (Literal.failure? text) with
      | none => simp [first, okUnless] at failed
      | some failure =>
        obtain rfl : failure = .tree fault := by simpa [first, okUnless] using failed
        obtain ⟨before, l, after, split, here, fine⟩ := List.findSome?_eq_some_iff.1 first
        refine ⟨items, before, l, after, read, split, fun k member => ?_, ?_⟩
        · exact Literal.failure?_eq_none_iff.1 (fine k member)
        · exact (Literal.failure?_eq_tree_iff.1 here).1
  · rintro ⟨items, before, l, after, read, split, fine, overlong⟩
    exact ⟨_, parse_of_first read split fine (Literal.failure?_eq_tree_iff.2 ⟨overlong, rfl⟩)⟩

/-- A line gives a command or an error that blames the line, exactly if the first literal that does
not fit, if there is one, is not overlong. -/
theorem parse_ok_or_line_iff (text : String) :
    ((∃ command, parse text = .ok command) ∨ ∃ error, parse text = .error (.line error)) ↔
      ¬ OverlongFirst text := by
  rw [← parse_eq_tree_iff]
  cases said : parse text with
  | ok command => simp
  | error failure => cases failure <;> simp

/-! ## A line of one integer -/

/-- A line of one integer gives that integer unless something is wrong with the literal. -/
theorem parse_of_isLiteral {text : String} (h : IsLiteral text.toList) :
    ∃ token, parse text =
      okUnless (Literal.failure? text ⟨.int, token, text.toList⟩)
        (ofEntries [.argument (.int (valueOf text.toList))]) := by
  obtain ⟨sample, symbol, plain⟩ : ∃ sample : Token,
      sample.symbol = .terminal (.scalar .int) ∧ sample.text = text :=
    ⟨.read (.scalar .int) text.toList .start, rfl, String.ofList_toList⟩
  have readable : ∀ item ∈ [Item.value (.scalar .int sample)], item.Readable := by
    refine List.forall_mem_singleton.2 ⟨symbol, ?_⟩
    rw [plain]
    exact Item.firstScan_filter (Terminal.reads_int h) rfl
  have layout : Layout ([Item.value (.scalar .int sample)].flatMap Item.lexemes) text.toList := by
    have spelt := Phrase.spells_scalar .int sample [] [] rfl Layout.nil
    simpa [Item.lexemes, plain] using spelt
  obtain ⟨items, alike, read⟩ := Item.exists_ofText_of_layout readable layout
  obtain ⟨item, rfl, one⟩ := List.map_eq_singleton_iff.1 alike
  obtain ⟨token, rfl, same⟩ := Item.eq_of_unplaced_scalar one
  rw [plain] at same
  refine ⟨token, ?_⟩
  rw [parse_of_ofText read]
  simp only [List.flatMap_cons, List.flatMap_nil, List.append_nil, Item.literals, Phrase.literals,
    Scalar.literals, List.findSome?_cons, List.findSome?_nil, same]
  cases Literal.failure? text ⟨.int, token, text.toList⟩ with
  | some failure => rfl
  | none => simp [okUnless, Item.entry, Phrase.meaning, Scalar.meaning, same]

/-- Zeros of which there are too many to be read are blamed on no place in the line. -/
theorem parse_zeros {n : Nat} (h : digitLimit < n) :
    parse (String.ofList (List.replicate n '0')) =
      .error (.tree (.unconvertible (.rule .int) (.tooManyDigits n))) := by
  have text : (String.ofList (List.replicate n '0')).toList = List.replicate n '0' :=
    String.toList_ofList
  have digits : IsDigits (List.replicate n '0') := by
    refine ⟨?_, fun c member => ?_⟩
    · have more : n ≠ 0 := by omega
      simpa using more
    · rw [(List.mem_replicate.1 member).2]
      rfl
  have literal : IsLiteral (String.ofList (List.replicate n '0')).toList := by
    rw [text]
    exact .positive digits
  have count : digitCount (List.replicate n '0') = n := by
    rw [digitCount, splitSign_of_isDigits digits, List.length_replicate]
  have overlong : (Tree.significant (List.replicate n '0')).length ≤ Tree.int64Digits := by
    have nothing : Tree.significant (List.replicate n '0') = [] := by
      simp [Tree.significant]
    rw [nothing]
    exact Nat.zero_le _
  obtain ⟨token, said⟩ := parse_of_isLiteral literal
  have failed := (@Literal.failure?_eq_tree_iff (String.ofList (List.replicate n '0'))
    ⟨.int, token, List.replicate n '0'⟩ _).2 ⟨⟨overlong, count.symm ▸ h⟩, rfl⟩
  rw [said, text, failed, count]
  rfl

theorem parse_zeros_not_line : ¬ ((∃ command,
      parse (String.ofList (List.replicate 4301 '0')) = .ok command) ∨
    ∃ error, parse (String.ofList (List.replicate 4301 '0')) = .error (.line error)) := by
  rw [parse_zeros (by decide)]
  simp

end Command

end CommandLine
