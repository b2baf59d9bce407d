import CommandLine.Numeral.DoubleReader
import CommandLine.Numeral.DoubleText
import CommandLine.Proofs.Numeral.Literal

/-!
# The texts of numbers

What the lexemes of integers, ranges and fractional numbers look like, and that every lexeme of a
fractional number reads as the double of a decimal number (`read?_of_float`).
-/

namespace CommandLine.Terminal
open CommandLine.Text CommandLine.Text.Scanner CommandLine.Numeral

variable {cs l rest : List Char}

theorem optional_eq_some {s : Scanner} (h : s.optional cs = some (l, rest)) :
    s cs = some (l, rest) ∨ l = [] := by
  unfold Scanner.optional Scanner.orElse at h
  split at h
  · next found => exact .inl (found.trans h)
  · exact .inr (by simpa using (congrArg Prod.fst (Option.some.inj h)).symm)

theorem isDigits_of_digits (h : Terminal.digits cs = some (l, rest)) : IsDigits l := by
  unfold Terminal.digits many1 at h
  obtain ⟨first, more, m, one, many, rfl⟩ := seq_eq_some.1 h
  obtain ⟨c, rfl, digit, -⟩ := one_eq_some.1 one
  obtain ⟨rfl, -⟩ : m.takeWhile isAsciiDigit = more ∧ _ := by simpa [Scanner.many] using many
  refine ⟨by simp, List.forall_mem_cons.2 ⟨digit, ?_⟩⟩
  exact List.all_eq_true.1 List.all_takeWhile

theorem isLiteral_of_integer (h : integer cs = some (l, rest)) : IsLiteral l := by
  obtain ⟨dash, ds, m, minus, found, rfl⟩ := seq_eq_some.1 h
  rcases optional_eq_some minus with minus | rfl
  · obtain ⟨c, rfl, same, -⟩ := one_eq_some.1 minus
    obtain rfl : c = '-' := by simpa using same
    exact .negative (isDigits_of_digits found)
  · exact .positive (isDigits_of_digits found)

theorem dots_text (h : dots cs = some (l, rest)) : l = ['.', '.'] := by
  obtain ⟨first, second, m, one, another, rfl⟩ := seq_eq_some.1 h
  obtain ⟨c, rfl, same, -⟩ := one_eq_some.1 one
  obtain ⟨d, rfl, same', -⟩ := one_eq_some.1 another
  obtain rfl : c = '.' := by simpa using same
  obtain rfl : d = '.' := by simpa using same'
  rfl

/-- A range is two literals with two dots between them. -/
theorem range_text (h : (scalar .range).body cs = some (l, rest)) :
    ∃ low high, l = low ++ '.' :: '.' :: high ∧ IsLiteral low ∧ IsLiteral high := by
  obtain ⟨low, _, m, first, more, rfl⟩ := seq_eq_some.1 h
  obtain ⟨between, high, m', second, third, rfl⟩ := seq_eq_some.1 more
  obtain rfl := dots_text second
  exact ⟨low, high, rfl, isLiteral_of_integer first, isLiteral_of_integer third⟩

/-- A range without its first bound is a literal behind two dots. -/
theorem rangeTo_text (h : (scalar .rangeTo).body cs = some (l, rest)) :
    ∃ beyond, l = '.' :: '.' :: beyond ∧ IsLiteral beyond := by
  obtain ⟨between, beyond, m, first, second, rfl⟩ := seq_eq_some.1 h
  obtain rfl := dots_text first
  exact ⟨beyond, rfl, isLiteral_of_integer second⟩

/-! ## Fractional numbers -/

/-- Nothing, or a point with digits behind it. -/
def IsPoint (cs : List Char) : Prop := cs = [] ∨ ∃ ds, cs = '.' :: ds ∧ IsDigits ds

/-- Whether a character stands before an exponent. -/
def isMark (c : Char) : Bool := c == 'e' || c == 'E'

/-- Nothing, or a mark with an exponent behind it. -/
def IsExponent (cs : List Char) : Prop :=
  cs = [] ∨ ∃ mark ds, cs = mark :: ds ∧ isMark mark = true ∧ IsDigits (splitSign ds).2

theorem isExponent_of_exponent (h : exponent cs = some (l, rest)) : IsExponent l := by
  obtain ⟨first, _, m, found, more, rfl⟩ := seq_eq_some.1 h
  obtain ⟨mark, rfl, marks, -⟩ := one_eq_some.1 found
  obtain ⟨signs, ds, m', signed, counted, rfl⟩ := seq_eq_some.1 more
  have digits := isDigits_of_digits counted
  refine .inr ⟨mark, signs ++ ds, rfl, marks, ?_⟩
  rcases optional_eq_some signed with signed | rfl
  · obtain ⟨c, rfl, same, -⟩ := one_eq_some.1 signed
    have either : c = '+' ∨ c = '-' := by simpa using same
    rcases either with rfl | rfl <;> exact digits
  · rw [List.nil_append, splitSign_of_isDigits digits]
    exact digits

theorem fraction_text (h : fraction cs = some (l, rest)) :
    ∃ point power, l = point ++ power ∧ IsPoint point ∧ IsExponent power := by
  unfold fraction Scanner.orElse at h
  split at h
  · next found =>
    obtain ⟨first, _, m, dot, more, rfl⟩ := seq_eq_some.1 (found.trans h)
    obtain ⟨c, rfl, same, -⟩ := one_eq_some.1 dot
    obtain rfl : c = '.' := by simpa using same
    obtain ⟨ds, power, m', counted, powered, rfl⟩ := seq_eq_some.1 more
    refine ⟨'.' :: ds, power, rfl, .inr ⟨ds, rfl, isDigits_of_digits counted⟩, ?_⟩
    rcases optional_eq_some powered with powered | rfl
    · exact isExponent_of_exponent powered
    · exact .inl rfl
  · exact ⟨[], l, rfl, .inl rfl, isExponent_of_exponent h⟩

/-- A fractional number is a literal with a fraction or an exponent behind it. -/
theorem float_text (h : (scalar .float).body cs = some (l, rest)) :
    ∃ whole point power, l = whole ++ (point ++ power) ∧ IsLiteral whole ∧ IsPoint point ∧
      IsExponent power := by
  obtain ⟨whole, _, m, first, second, rfl⟩ := seq_eq_some.1 h
  obtain ⟨point, power, rfl, pointed, powered⟩ := fraction_text second
  exact ⟨whole, point, power, rfl, isLiteral_of_integer first, pointed, powered⟩

theorem isAsciiDigit_of_mem_zeros {n : Nat} : ∀ c ∈ Double.zeros n, isAsciiDigit c = true := by
  intro c mem
  rw [List.eq_of_mem_replicate mem]
  rfl

theorem isMark_of_isAsciiDigit {c : Char} (h : isAsciiDigit c = true) : isMark c = false := by
  have small : c ≠ 'e' := ne_of_isAsciiDigit h rfl
  have large : c ≠ 'E' := ne_of_isAsciiDigit h rfl
  simp [isMark, small, large]

theorem readDigits_of_isDigits {ds : List Char} (h : IsDigits ds) :
    readDigits false ds = some (ds.filterMap digitValue?) :=
  (readDigits_of_isAsciiDigit h.2 fun (_ : false = false) => h.1).1

/-- The mark of an exponent, if there is one, ends the digits before it. -/
theorem cut_at_exponent {mantissa power : List Char} (powered : IsExponent power)
    (plain : ∀ c ∈ mantissa, isMark c = false) :
    (mantissa ++ power).takeWhile (!isMark ·) = mantissa ∧
      (mantissa ++ power).dropWhile (!isMark ·) = power := by
  have kept : ∀ c ∈ mantissa, (!isMark c) = true := fun c member => by simp [plain c member]
  rw [List.takeWhile_append_of_pos kept, List.dropWhile_append_of_pos kept]
  rcases powered with rfl | ⟨mark, ds, rfl, marks, -⟩
  · simp
  · simp [marks]

/-- The point of a number, if there is one, ends the digits before it. -/
theorem cut_at_point {whole point : List Char} (digits : IsDigits whole) (pointed : IsPoint point) :
    (whole ++ point).takeWhile (· != '.') = whole ∧
      (whole ++ point).dropWhile (· != '.') = point := by
  have kept : ∀ c ∈ whole, (c != '.') = true := fun c member => by
    have apart : c ≠ '.' := ne_of_isAsciiDigit (digits.2 c member) rfl
    simpa using apart
  rw [List.takeWhile_append_of_pos kept, List.dropWhile_append_of_pos kept]
  rcases pointed with rfl | ⟨ds, rfl, -⟩ <;> simp

/-- A number is read as its digits, with the exponent that moves the point behind the last one. -/
theorem readUnsigned_eq {whole point power : List Char} (digits : IsDigits whole)
    (pointed : IsPoint point) (powered : IsExponent power) :
    Double.readUnsigned (whole ++ point ++ power) =
      some ((whole ++ point.drop 1).filterMap digitValue?,
        valueOf (power.drop 1) - (point.drop 1).length) := by
  have plain : ∀ c ∈ whole ++ point, isMark c = false := by
    intro c member
    rcases List.mem_append.1 member with first | second
    · exact isMark_of_isAsciiDigit (digits.2 c first)
    · rcases pointed with rfl | ⟨ds, rfl, after⟩
      · simp at second
      · rcases List.mem_cons.1 second with rfl | digit
        · rfl
        · exact isMark_of_isAsciiDigit (after.2 c digit)
  -- The reader cuts the text into the same three parts, and each of them has digits to read.
  obtain ⟨mantissa, power'⟩ := cut_at_exponent powered plain
  obtain ⟨whole', point'⟩ := cut_at_point digits pointed
  have count {ds : List Char} (h : IsDigits ds) : (ds.filterMap digitValue?).length = ds.length :=
    (readDigits_of_isAsciiDigit h.2 fun (_ : false = false) => h.1).2
  have wholeRead : Double.readDigitsOrNone whole = some (whole.filterMap digitValue?) := by
    simp [Double.readDigitsOrNone, digits.1, readDigits_of_isDigits digits]
  have more : whole.filterMap digitValue? ≠ [] := by
    rw [← List.length_pos_iff, count digits]
    exact List.length_pos_iff.2 digits.1
  obtain ⟨fractionRead, places⟩ : Double.readDigitsOrNone (point.drop 1) =
      some ((point.drop 1).filterMap digitValue?) ∧
      ((point.drop 1).filterMap digitValue?).length = (point.drop 1).length := by
    rcases pointed with rfl | ⟨ds, rfl, after⟩
    · exact ⟨rfl, rfl⟩
    · exact ⟨by simp [Double.readDigitsOrNone, after.1, readDigits_of_isDigits after], count after⟩
  simp only [isMark] at mantissa power'
  simp only [Double.readUnsigned, mantissa, power', whole', point', wholeRead, fractionRead]
  generalize point.drop 1 = fraction at places
  rcases powered with rfl | ⟨c, ds, rfl, -, after⟩
  · have none : valueOf [] = 0 := rfl
    simp [more, places, none]
  · simp [Double.readExponent, readDigits_of_isDigits after, more, places, valueOf, magnitudeOf]

/-- There is no margin around a number. -/
theorem trim_of_number {whole point power : List Char} (literal : IsLiteral whole)
    (pointed : IsPoint point) (powered : IsExponent power) :
    trim (whole ++ point ++ power) = whole ++ point ++ power := by
  have ends (before : List Char) {ds : List Char} (after : IsDigits ds) :
      ∀ c ∈ (before ++ ds).getLast?, isMargin c = false := by
    rw [List.getLast?_append, List.getLast?_eq_some_getLast after.1]
    simpa [List.getLast?_eq_some_getLast after.1] using after.getLast
  obtain ⟨c, tail, same, margin⟩ := literal.head
  refine trim_of_ends (by simp [same, margin]) ?_
  rcases powered with rfl | ⟨mark, ds, rfl, -, after⟩
  · rcases pointed with rfl | ⟨ds, rfl, after⟩
    · simpa using literal.getLast
    · simpa using ends (whole ++ ['.']) after
  · obtain ⟨sign, same⟩ : ∃ sign, ds = sign ++ (splitSign ds).2 := by
      unfold splitSign
      split
      · exact ⟨['-'], rfl⟩
      · exact ⟨['+'], rfl⟩
      · exact ⟨[], rfl⟩
    have last := ends (whole ++ point ++ mark :: sign) after
    rw [List.append_assoc, List.cons_append, ← same] at last
    exact last

theorem toLower_of_isAsciiDigit {c : Char} (h : isAsciiDigit c = true) : c.toLower = c := by
  obtain ⟨low, high⟩ := toNat_of_isAsciiDigit h
  have upper : ¬ ('A'.val ≤ c.val ∧ c.val ≤ 'Z'.val) := by
    have small : c.val.toNat ≤ 57 := high
    simp only [UInt32.le_iff_toNat_le]
    have letter : 'A'.val.toNat = 65 := rfl
    omega
  exact dif_neg upper

/-- A number that begins with a digit is none of the words for numbers. -/
theorem isWord_of_isAsciiDigit {c : Char} (h : isAsciiDigit c = true) (cs : List Char) :
    Double.isWord "inf" (c :: cs) = false ∧ Double.isWord "infinity" (c :: cs) = false ∧
      Double.isWord "nan" (c :: cs) = false := by
  have lower := toLower_of_isAsciiDigit h
  have first : c ≠ 'i' := ne_of_isAsciiDigit h rfl
  have other : c ≠ 'n' := ne_of_isAsciiDigit h rfl
  simp [Double.isWord, lower, first, other]

theorem splitSign_append_of_isLiteral {whole : List Char} (h : IsLiteral whole) (rest : List Char) :
    splitSign (whole ++ rest) = ((splitSign whole).1, (splitSign whole).2 ++ rest) := by
  cases h with
  | positive digits =>
    obtain ⟨c, ds, rfl⟩ := List.exists_cons_of_ne_nil digits.1
    have digit := digits.2 c List.mem_cons_self
    have minus : c ≠ '-' := ne_of_isAsciiDigit digit rfl
    have plus : c ≠ '+' := ne_of_isAsciiDigit digit rfl
    simp [splitSign, minus, plus]
  | negative digits => rfl

/-- Every lexeme of a fractional number reads as the double of a decimal number. -/
theorem read?_of_float (h : (scalar .float).body cs = some (l, rest)) :
    ∃ negative ds exponent, Double.read? l = some (Double.ofDecimal negative ds exponent) := by
  obtain ⟨whole, point, power, rfl, literal, pointed, powered⟩ := float_text h
  have digits := isDigits_of_isLiteral literal
  obtain ⟨ds', exponent, number⟩ : ∃ ds' exponent,
      Double.readUnsigned ((splitSign whole).2 ++ point ++ power) = some (ds', exponent) :=
    ⟨_, _, readUnsigned_eq digits pointed powered⟩
  obtain ⟨c, ds, same⟩ := List.exists_cons_of_ne_nil digits.1
  obtain ⟨inf, infinity, nan⟩ :=
    isWord_of_isAsciiDigit (digits.2 c (same ▸ List.mem_cons_self)) (ds ++ (point ++ power))
  rw [← List.cons_append, ← same] at inf infinity nan
  rw [List.append_assoc] at number
  refine ⟨(splitSign whole).1, ds', exponent, ?_⟩
  rw [Double.read?, ← List.append_assoc, trim_of_number literal pointed powered,
    List.append_assoc, splitSign_append_of_isLiteral literal]
  simp [inf, infinity, nan, number]

theorem ofDecimal_ne_nan (negative : Bool) (ds : List Nat) (exponent : Int) :
    Double.ofDecimal negative ds exponent ≠ .nan := by
  have ratio (num den : Nat) : Double.ofRatio negative num den ≠ .nan := by
    unfold Double.ofRatio
    simp only
    split <;> simp
  unfold Double.ofDecimal
  simp only
  split
  · simp [Double.zero]
  split
  · simp
  split
  · simp [Double.zero]
  · exact ratio _ _

end CommandLine.Terminal
