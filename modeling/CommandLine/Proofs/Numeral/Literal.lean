import CommandLine.Numeral.Integer
import CommandLine.Proofs.Terminal.Lexeme

/-!
# Integer literals

Integers as they are written on a command line: ASCII digits with an optional minus sign. A literal
with few enough digits reads as its value (`readInteger_of_isLiteral`), and every integer is the
value of the literal that it is written as (`valueOf_decimalChars`).
-/

namespace CommandLine.Numeral
open CommandLine.Text CommandLine.Text.Scanner CommandLine.Terminal

/-- ASCII digits, of which there is at least one. -/
def IsDigits (cs : List Char) : Prop := cs ≠ [] ∧ ∀ c ∈ cs, isAsciiDigit c = true

/-- An integer as it is written on a command line. -/
inductive IsLiteral : List Char → Prop where
  | positive {ds : List Char} (h : IsDigits ds) : IsLiteral ds
  | negative {ds : List Char} (h : IsDigits ds) : IsLiteral ('-' :: ds)

/-- How many digits a literal has. -/
def digitCount (cs : List Char) : Nat := (splitSign cs).2.length

/-- The number that digits stand for. -/
def magnitudeOf (ds : List Char) : Nat := ofDigits (ds.filterMap digitValue?)

/-- The integer that a literal stands for. -/
def valueOf (cs : List Char) : Int :=
  if (splitSign cs).1 then -(magnitudeOf (splitSign cs).2 : Int) else magnitudeOf (splitSign cs).2

/-! ## Single digits -/

theorem digitValue?_of_isAsciiDigit {c : Char} (h : isAsciiDigit c = true) :
    digitValue? c = some (c.toNat - 48) := by
  obtain ⟨low, high⟩ := toNat_of_isAsciiDigit h
  have notBelow : ¬ c.toNat < 48 := by omega
  have small : (c.toNat - 48) % 10 = c.toNat - 48 := Nat.mod_eq_of_lt (by omega)
  simp [digitValue?, digitIntervals, Intervals.digitValue?, notBelow, high, small]

theorem ne_of_isAsciiDigit {c d : Char} (h : isAsciiDigit c = true)
    (other : isAsciiDigit d = false) : c ≠ d := by
  rintro rfl
  simp [h] at other

theorem isBlank_of_isAsciiDigit {c : Char} (h : isAsciiDigit c = true) : isBlank c = false := by
  have apart : blanks.any isAsciiDigit = false := by decide
  cases blank : isBlank c with
  | false => rfl
  | true => exact absurd h (List.any_eq_false.1 apart c (mem_blanks blank))

theorem isMargin_of_isAsciiDigit {c : Char} (h : isAsciiDigit c = true) : isMargin c = false := by
  simp [isMargin, isBlank_of_isAsciiDigit h]

theorem digitChar_spec :
    ∀ n < 10, isAsciiDigit (digitChar n) = true ∧ digitValue? (digitChar n) = some n := by
  decide

/-! ## Reading -/

theorem splitSign_of_isDigits {ds : List Char} (h : IsDigits ds) : splitSign ds = (false, ds) := by
  obtain ⟨nonempty, all⟩ := h
  obtain ⟨c, ds, rfl⟩ := List.exists_cons_of_ne_nil nonempty
  have digit := all c List.mem_cons_self
  have minus : c ≠ '-' := ne_of_isAsciiDigit digit rfl
  have plus : c ≠ '+' := ne_of_isAsciiDigit digit rfl
  simp [splitSign, minus, plus]

/-- Digits are read one by one. -/
theorem readDigits_of_isAsciiDigit {ds : List Char} (h : ∀ c ∈ ds, isAsciiDigit c = true)
    {underscoreAllowed : Bool} (more : underscoreAllowed = false → ds ≠ []) :
    readDigits underscoreAllowed ds = some (ds.filterMap digitValue?) ∧
      (ds.filterMap digitValue?).length = ds.length := by
  induction ds generalizing underscoreAllowed with
  | nil =>
    cases underscoreAllowed with
    | true => simp [readDigits]
    | false => exact absurd rfl (more rfl)
  | cons c ds ih =>
    obtain ⟨digit, digits⟩ := List.forall_mem_cons.1 h
    have value := digitValue?_of_isAsciiDigit digit
    have underscore : c ≠ '_' := ne_of_isAsciiDigit digit rfl
    obtain ⟨tail, count⟩ := ih digits (fun (impossible : true = false) => by simp at impossible)
    rw [readDigits]
    simp [underscore, value, tail, count]

theorem trim_of_ends {cs : List Char} (first : ∀ c ∈ cs.head?, isMargin c = false)
    (last : ∀ c ∈ cs.getLast?, isMargin c = false) : trim cs = cs := by
  have stays {ds : List Char} (h : ∀ c ∈ ds.head?, isMargin c = false) :
      ds.dropWhile isMargin = ds := by
    cases ds with
    | nil => rfl
    | cons c ds => simp [h c rfl]
  have last' : ∀ c ∈ cs.reverse.head?, isMargin c = false := by simpa using last
  rw [trim, stays first, stays last', List.reverse_reverse]

theorem IsDigits.getLast {ds : List Char} (h : IsDigits ds) :
    ∀ c ∈ ds.getLast?, isMargin c = false := fun c member =>
  isMargin_of_isAsciiDigit (h.2 c (List.mem_of_getLast? member))

theorem IsLiteral.getLast {cs : List Char} (h : IsLiteral cs) :
    ∀ c ∈ cs.getLast?, isMargin c = false := by
  cases h with
  | positive digits => exact digits.getLast
  | @negative ds digits =>
    obtain ⟨d, ds, rfl⟩ := List.exists_cons_of_ne_nil digits.1
    rw [List.getLast?_cons_cons]
    exact digits.getLast

theorem IsLiteral.head {cs : List Char} (h : IsLiteral cs) :
    ∃ c rest, cs = c :: rest ∧ isMargin c = false := by
  cases h with
  | positive digits =>
    obtain ⟨d, ds, rfl⟩ := List.exists_cons_of_ne_nil digits.1
    exact ⟨d, ds, rfl, isMargin_of_isAsciiDigit (digits.2 d List.mem_cons_self)⟩
  | @negative ds digits => exact ⟨'-', ds, rfl, by decide⟩

theorem trim_of_isLiteral {cs : List Char} (h : IsLiteral cs) : trim cs = cs := by
  obtain ⟨c, rest, rfl, margin⟩ := h.head
  exact trim_of_ends (by simp [margin]) h.getLast

theorem isDigits_of_isLiteral {cs : List Char} (h : IsLiteral cs) : IsDigits (splitSign cs).2 := by
  cases h with
  | positive digits => rw [splitSign_of_isDigits digits]; exact digits
  | negative digits => exact digits

/-- A literal reads as its value unless it has too many digits. -/
theorem readInteger_of_isLiteral {cs : List Char} (h : IsLiteral cs) :
    readInteger cs =
      if digitLimit < digitCount cs then .error (.tooManyDigits (digitCount cs))
      else .ok (valueOf cs) := by
  obtain ⟨nonempty, all⟩ := isDigits_of_isLiteral h
  obtain ⟨read, count⟩ := readDigits_of_isAsciiDigit all (fun (_ : false = false) => nonempty)
  have numeral : ∀ c ∈ (splitSign cs).2, isNumeralChar c = true := fun c member => by
    simp [isNumeralChar, digitValue?_of_isAsciiDigit (all c member)]
  have kept : (splitSign cs).2.takeWhile isNumeralChar = (splitSign cs).2 := by
    simpa using @List.takeWhile_append_of_pos _ _ _ [] numeral
  have dropped : (splitSign cs).2.dropWhile isNumeralChar = [] := by
    simpa using @List.dropWhile_append_of_pos _ _ _ [] numeral
  simp only [readInteger, trim_of_isLiteral h, kept, dropped, read, count, digitCount, valueOf,
    magnitudeOf, gt_iff_lt, List.isEmpty_nil, if_true]
  rfl

/-! ## Size -/

theorem le_foldl_digits (ds : List Nat) (n : Nat) :
    n * Nat.pow 10 ds.length ≤ ds.foldl (fun n d => 10 * n + d) n := by
  induction ds generalizing n with
  | nil => exact Nat.le_of_eq (Nat.mul_one n)
  | cons d ds ih =>
    have more : n * 10 ≤ 10 * n + d := by omega
    calc n * Nat.pow 10 (ds.length + 1)
      _ = n * 10 * Nat.pow 10 ds.length := by
        rw [show Nat.pow 10 (ds.length + 1) = Nat.pow 10 ds.length * 10 from rfl,
          Nat.mul_comm (Nat.pow 10 ds.length), Nat.mul_assoc]
      _ ≤ (10 * n + d) * Nat.pow 10 ds.length := Nat.mul_le_mul_right _ more
      _ ≤ _ := ih _

theorem magnitudeOf_dropWhile_zero (ds : List Char) :
    magnitudeOf (ds.dropWhile (· == '0')) = magnitudeOf ds := by
  induction ds with
  | nil => rfl
  | cons c ds ih =>
    by_cases zero : c = '0'
    · subst zero
      have value : digitValue? '0' = some 0 := rfl
      have skipped : magnitudeOf ('0' :: ds) = magnitudeOf ds := by
        simp [magnitudeOf, value, ofDigits]
      rw [skipped, ← ih]
      rfl
    · rw [List.dropWhile_cons_of_neg (by simpa using zero)]

/-- Digits of which the first is no zero stand for no less than that power of ten. -/
theorem pow_le_magnitudeOf {c : Char} {ds : List Char}
    (h : ∀ d ∈ c :: ds, isAsciiDigit d = true) (nonzero : c ≠ '0') :
    Nat.pow 10 ds.length ≤ magnitudeOf (c :: ds) := by
  obtain ⟨first, others⟩ := List.forall_mem_cons.1 h
  obtain ⟨low, -⟩ := toNat_of_isAsciiDigit first
  have apart : c.toNat ≠ 48 := fun same => nonzero (Char.toNat_inj.1 same)
  have count := (readDigits_of_isAsciiDigit others
    fun (impossible : true = false) => absurd impossible (by decide)).2
  have larger := le_foldl_digits (ds.filterMap digitValue?) (10 * 0 + (c.toNat - 48))
  rw [count] at larger
  rw [magnitudeOf, List.filterMap_cons, digitValue?_of_isAsciiDigit first]
  refine Nat.le_trans (Nat.le_mul_of_pos_left _ ?_) larger
  omega

theorem natAbs_valueOf (cs : List Char) : (valueOf cs).natAbs = magnitudeOf (splitSign cs).2 := by
  unfold valueOf
  split <;> omega

/-! ## Writing -/

theorem digitsOnto_append (n : Nat) (rest : List Char) : digitsOnto n rest = digits n ++ rest := by
  induction n using Nat.strongRecOn generalizing rest with
  | ind n ih =>
    by_cases small : n < 10
    · have onto (rest : List Char) : digitsOnto n rest = digitChar n :: rest := by
        rw [digitsOnto, if_pos small]
      rw [digits, onto, onto, List.singleton_append]
    · have smaller : n / 10 < n := by omega
      have onto (rest : List Char) :
          digitsOnto n rest = digitsOnto (n / 10) (digitChar (n % 10) :: rest) := by
        rw [digitsOnto, if_neg small]
      rw [digits, onto, onto, ih _ smaller, ih _ smaller [_]]
      simp

/-- The digits of a number are those of its tenth and its last one. -/
theorem digits_of_ge {n : Nat} (h : 10 ≤ n) :
    digits n = digits (n / 10) ++ [digitChar (n % 10)] := by
  have large : ¬ n < 10 := by omega
  rw [← digitsOnto_append, digits, digitsOnto, if_neg large]

theorem digits_of_lt {n : Nat} (h : n < 10) : digits n = [digitChar n] := by
  rw [digits, digitsOnto, if_pos h]

theorem isDigits_digits (n : Nat) : IsDigits (digits n) := by
  induction n using Nat.strongRecOn with
  | ind n ih =>
    by_cases small : n < 10
    · rw [digits_of_lt small]
      exact ⟨by simp, by simpa using (digitChar_spec n small).1⟩
    · have last := (digitChar_spec (n % 10) (by omega)).1
      obtain ⟨-, all⟩ := ih (n / 10) (by omega)
      rw [digits_of_ge (by omega)]
      refine ⟨by simp, fun c member => ?_⟩
      rcases List.mem_append.1 member with earlier | here
      · exact all c earlier
      · exact List.mem_singleton.1 here ▸ last

theorem ofDigits_append_one (ds : List Nat) (d : Nat) :
    ofDigits (ds ++ [d]) = 10 * ofDigits ds + d := by
  simp [ofDigits]

theorem magnitudeOf_digits (n : Nat) : magnitudeOf (digits n) = n := by
  induction n using Nat.strongRecOn with
  | ind n ih =>
    by_cases small : n < 10
    · simp [magnitudeOf, digits_of_lt small, (digitChar_spec n small).2, ofDigits]
    · have tenth := ih (n / 10) (by omega)
      have last := (digitChar_spec (n % 10) (by omega)).2
      unfold magnitudeOf at tenth ⊢
      rw [digits_of_ge (by omega), List.filterMap_append]
      simp only [List.filterMap_cons, last, List.filterMap_nil, ofDigits_append_one, tenth]
      omega

theorem length_digits_of_ge {n : Nat} (h : 10 ≤ n) :
    (digits n).length = (digits (n / 10)).length + 1 := by
  rw [digits_of_ge h, List.length_append, List.length_singleton]

theorem lt_pow_length_digits (n : Nat) : n < Nat.pow 10 (digits n).length := by
  induction n using Nat.strongRecOn with
  | ind n ih =>
    by_cases small : n < 10
    · rw [digits_of_lt small]
      exact small
    · have tenth := ih (n / 10) (by omega)
      rw [length_digits_of_ge (by omega)]
      show n < Nat.pow 10 (digits (n / 10)).length * 10
      omega

theorem pow_length_digits_le {n : Nat} (h : 0 < n) : Nat.pow 10 ((digits n).length - 1) ≤ n := by
  induction n using Nat.strongRecOn with
  | ind n ih =>
    by_cases small : n < 10
    · rw [digits_of_lt small]
      exact h
    · have tenth := ih (n / 10) (by omega) (by omega)
      have more : (digits (n / 10)).length - 1 + 1 = (digits (n / 10)).length :=
        Nat.sub_add_cancel (List.length_pos_iff.2 (isDigits_digits _).1)
      rw [length_digits_of_ge (by omega), Nat.add_sub_cancel, ← more]
      show Nat.pow 10 ((digits (n / 10)).length - 1) * 10 ≤ n
      omega

/-- A number below a power of ten has at most that many digits. -/
theorem length_digits_le {n k : Nat} (h : n < Nat.pow 10 (k + 1)) :
    (digits n).length ≤ k + 1 := by
  by_cases positive : 0 < n
  · have least := pow_length_digits_le positive
    have fewer : (digits n).length - 1 < k + 1 :=
      (Nat.pow_lt_pow_iff_right (by decide)).1 (Nat.lt_of_le_of_lt least h)
    omega
  · rw [digits_of_lt (by omega), List.length_singleton]
    omega

theorem length_digits_le_iff {n k : Nat} (h : 0 < k) :
    (digits n).length ≤ k ↔ n < Nat.pow 10 k := by
  obtain ⟨k, rfl⟩ := Nat.exists_eq_add_of_lt h
  rw [Nat.zero_add]
  refine ⟨fun few => ?_, length_digits_le⟩
  exact Nat.lt_of_lt_of_le (lt_pow_length_digits n) (Nat.pow_le_pow_right (by decide) few)

/-- An integer can be written exactly if it is below the power of ten with the greatest number of
digits. -/
theorem isWritable_iff {n : Int} : isWritable n = true ↔ n.natAbs < Nat.pow 10 digitLimit := by
  rw [isWritable, decide_eq_true_iff]
  exact length_digits_le_iff (by decide)

theorem isLiteral_decimalChars (n : Int) : IsLiteral (decimalChars n) := by
  cases n with
  | ofNat n => exact .positive (isDigits_digits n)
  | negSucc n => exact .negative (isDigits_digits (n + 1))

/-- The sign and the digits that an integer is written with. -/
theorem splitSign_decimalChars (n : Int) :
    splitSign (decimalChars n) = (decide (n < 0), digits n.natAbs) := by
  cases n with
  | ofNat n =>
    have negative : ¬ Int.ofNat n < 0 := by simp
    rw [decimalChars, splitSign_of_isDigits (isDigits_digits n), decide_eq_false negative]
    rfl
  | negSucc n =>
    have negative : Int.negSucc n < 0 := Int.negSucc_lt_zero n
    rw [decimalChars, splitSign, decide_eq_true negative]
    rfl

/-- Every integer is the value of the literal that it is written as. -/
theorem valueOf_decimalChars (n : Int) : valueOf (decimalChars n) = n := by
  rw [valueOf, splitSign_decimalChars, magnitudeOf_digits]
  by_cases negative : n < 0
  · rw [if_pos (by simpa using negative)]
    omega
  · rw [if_neg (by simpa using negative)]
    omega

theorem digitCount_decimalChars {n : Int} {k : Nat} (h : n.natAbs < Nat.pow 10 (k + 1)) :
    digitCount (decimalChars n) ≤ k + 1 := by
  rw [digitCount, splitSign_decimalChars]
  exact length_digits_le h

end CommandLine.Numeral
