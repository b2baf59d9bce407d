import CommandLine.Fuzz.Generator
import CommandLine.Proofs.Fuzz.Draw
import CommandLine.Proofs.Numeral.WrittenDouble
import CommandLine.Proofs.Tree.Word

/-!
# Tokens of random lines

What the parts of a random line are read to that are one token or none. A random name can be the
name of a keyword and of a flag. A random value that is no list is read as one value wherever a
value may stand, with two exceptions: a dash, and a word with a name, a colon and a value in it.
-/

namespace CommandLine

theorem Numeral.IsLiteral.ne_nil {cs : List Char} (h : IsLiteral cs) : cs ≠ [] := by
  obtain ⟨c, tail, rfl, -⟩ := h.head
  exact List.cons_ne_nil _ _

namespace Terminal
open CommandLine.Text CommandLine.Numeral

variable {w : List Char}

instance (t : Terminal) (text : List Char) : Decidable (t.Reads text) :=
  inferInstanceAs (Decidable (_ = _))

/-- A word without colons that can be a value is read as one. -/
theorem exists_reads_of_word (word : IsWord w) (value : IsValueWord w) (noColon : ':' ∉ w) :
    ∃ form, (scalar form).Reads w := by
  obtain ⟨form, kind, -⟩ := Scalar.existsUnique_isKindOf w
  have noKey := key_scan_of_no_colon noColon
  have noFlag := flag_scan_eq_none (scan_of_isKindOf word value kind)
  have found : Item.firstScan (byPriority.filter fun _ => true) w = some (.scalar form, w, []) :=
    Item.firstScan_value word value kind rfl (by simp [noKey, noFlag])
  rw [List.filter_true] at found
  exact ⟨form, found⟩

end Terminal

namespace Fuzz
open CommandLine.Text CommandLine.Numeral CommandLine.Terminal CommandLine.Fuzz.Draw

variable {cs ds : List Char}

/-! ## Names -/

/-- What a flag can be called. -/
def IsIdentifier : List Char → Prop
  | [] => False
  | c :: name => isFlagStart c = true ∧ ∀ d ∈ name, isFlag d = true

instance : DecidablePred IsIdentifier := fun cs =>
  match cs with
  | [] => inferInstanceAs (Decidable False)
  | c :: name =>
    decidable_of_iff ((isFlagStart c && name.all isFlag) = true) (by simp [IsIdentifier])

theorem isFlag_of_isIdentifier (h : IsIdentifier cs) : ∀ d ∈ cs, isFlag d = true := by
  cases cs with
  | nil => exact List.forall_mem_nil _
  | cons c name =>
    have start : isWordChar c = true := (Bool.and_eq_true_iff.1 h.1).1
    refine List.forall_mem_cons.2 ⟨?_, h.2⟩
    rw [isFlag, start]
    rfl

theorem isFlagWord_of_isIdentifier (h : IsIdentifier cs) : IsFlagWord ('-' :: cs) := by
  cases cs with
  | nil => exact h.elim
  | cons c name => exact ⟨c, name, rfl, h.1, h.2⟩

theorem isWord_of_isIdentifier (h : IsIdentifier cs) : IsWord cs ∧ ∀ c ∈ cs, c ≠ ':' ∧ c ≠ '/' := by
  have other {c d : Char} (member : c ∈ cs) (outside : isFlag d = false) : c ≠ d := by
    rintro rfl
    rw [isFlag_of_isIdentifier h c member] at outside
    exact absurd outside (by decide)
  refine ⟨(List.forall_mem_cons.1 (isFlagWord_of_isIdentifier h).isWord).2, fun c member => ?_⟩
  exact ⟨other member (by decide +kernel), other member (by decide +kernel)⟩

theorem reads_flag_of_isIdentifier (h : IsIdentifier cs) : flag.Reads ('-' :: cs) := by
  have flagged := isFlagWord_of_isIdentifier h
  refine reads_of_scan ((flag_scan_word_iff flagged.isWord).2 ⟨rfl, rfl, flagged⟩) ?_
  intro u before
  rw [eq_key_of_before_flag before]
  exact key_scan_dash _

theorem reads_key_of_isIdentifier (h : IsIdentifier cs) : key.Reads (cs ++ [':']) := by
  have flagged : flag.scan ('-' :: cs) = some ('-' :: cs, []) :=
    (Item.follow_of_firstScan (reads_flag_of_isIdentifier h)).1
  exact reads_key (isName_of_flag flagged)

theorem yields_identifier : Yields identifier IsIdentifier := by
  refine yields_bind fun common => yields_ite ?_ ?_
  · exact yields_pick (by decide) (by decide +kernel)
  · refine yields_bind fun length => ?_
    have letters : (asciiLetters ++ ['_']).all isFlagStart = true := by decide +kernel
    have others : (asciiLetters ++ asciiDigits ++ ['_', '-']).all isFlag = true := by decide +kernel
    refine (yields_pick_of_all (by simp) letters).bind fun first start => ?_
    refine (yields_times (yields_pick_of_all (by simp) others) _).bind fun rest inside => ?_
    exact yields_pure ⟨start, inside.2⟩

/-! ## Values of one token -/

/-- The texts of random values that are no lists. -/
inductive ScalarText : List Char → Prop where
  | token {form : Scalar} {cs : List Char} (reads : (Terminal.scalar form).Reads cs)
      (noSlash : cs.head? ≠ some '/') : ScalarText cs
  | dash : ScalarText ['-']
  | pair : ScalarText ['a', ':', 'b']

theorem scalarText_of_word (word : IsWord cs) (value : IsValueWord cs)
    (apart : ∀ c ∈ cs, c ≠ ':' ∧ c ≠ '/') : ScalarText cs := by
  obtain ⟨form, reads⟩ := exists_reads_of_word word value fun colon => (apart _ colon).1 rfl
  refine .token reads ?_
  intro slash
  exact (apart '/' (List.mem_of_head? slash)).2 rfl

theorem scalarText_of_isIdentifier (h : IsIdentifier cs) : ScalarText cs := by
  obtain ⟨word, apart⟩ := isWord_of_isIdentifier h
  refine scalarText_of_word word ?_ apart
  cases cs with
  | nil => exact h.elim
  | cons c name =>
    refine ⟨List.cons_ne_nil _ _, .inl ?_⟩
    intro dash
    obtain rfl : c = '-' := Option.some.inj dash
    exact absurd h.1 (by decide +kernel)

/-! ### Numbers and ranges -/

/-- The characters of numbers and ranges. -/
def IsNumberChar (c : Char) : Prop := isAsciiDigit c = true ∨ c ∈ ['-', '+', '.', 'e']

theorem scalarText_of_number (plain : ∀ c ∈ cs, IsNumberChar c) (value : IsValueWord cs) :
    ScalarText cs := by
  have other {c d : Char} (member : c ∈ cs) (digit : isAsciiDigit d = false)
      (mark : d ∉ ['-', '+', '.', 'e']) : c ≠ d := by
    rintro rfl
    rcases plain c member with same | same
    · simp [same] at digit
    · exact mark same
  refine scalarText_of_word ?_ value ?_
  · intro c member
    refine ⟨?_, other member rfl (by decide), other member rfl (by decide),
      other member rfl (by decide), other member rfl (by decide)⟩
    rcases plain c member with digit | mark
    · exact isBlank_of_isAsciiDigit digit
    · have visible : (['-', '+', '.', 'e'].all fun d => !isBlank d) = true := by decide
      simpa using List.all_eq_true.1 visible c mark
  · intro c member
    exact ⟨other member rfl (by decide), other member rfl (by decide)⟩

/-- Numbers and ranges may begin with a dash. -/
theorem isValueWord_of_hasForm (form : Scalar) (nonempty : cs ≠ []) (formed : form.HasForm cs)
    (number : form ∈ [Scalar.int, .float, .range]) : IsValueWord cs :=
  ⟨nonempty, .inr ⟨form, number, formed⟩⟩

theorem isNumberChar_digits {c : Char} (h : IsDigits ds) (member : c ∈ ds) : IsNumberChar c :=
  .inl (h.2 c member)

theorem isNumberChar_literal {c : Char} (h : IsLiteral ds) (member : c ∈ ds) : IsNumberChar c := by
  rcases isLiteral_chars h c member with digit | rfl
  · exact .inl digit
  · exact .inr (by decide)

theorem isNumberChar_mark {c : Char} (mark : c ∈ ['-', '+', '.', 'e']) : IsNumberChar c :=
  .inr mark

theorem scalarText_integer (h : IsLiteral cs) : ScalarText cs :=
  scalarText_of_number (fun _ => isNumberChar_literal h)
    (isValueWord_of_hasForm .int h.ne_nil h (by decide))

theorem scalarText_decimal {whole fraction : List Char} (h : IsLiteral whole)
    (digits : IsDigits fraction) : ScalarText (whole ++ '.' :: fraction) := by
  refine scalarText_of_number ?_ (isValueWord_of_hasForm .float ?_ ?_ (by decide))
  · intro c member
    rcases List.mem_append.1 member with front | back
    · exact isNumberChar_literal h front
    · rcases List.mem_cons.1 back with rfl | back
      · exact isNumberChar_mark (by decide)
      · exact isNumberChar_digits digits back
  · simp
  · refine ⟨whole, '.' :: fraction, [], ?_, h, .inr ⟨fraction, rfl, digits⟩, .inl rfl, by simp⟩
    rw [List.append_nil]

theorem scalarText_scientific {coefficient sign exponent : List Char} (h : IsDigits coefficient)
    (signed : sign ∈ [[], ['-'], ['+']]) (digits : IsDigits exponent) :
    ScalarText (coefficient ++ 'e' :: sign ++ exponent) := by
  have power : IsDigits (splitSign (sign ++ exponent)).2 ∧ ∀ c ∈ sign, IsNumberChar c := by
    have cases : sign = [] ∨ sign = ['-'] ∨ sign = ['+'] := by simpa using signed
    rcases cases with rfl | rfl | rfl
    · rw [List.nil_append, splitSign_of_isDigits digits]
      exact ⟨digits, List.forall_mem_nil _⟩
    · exact ⟨digits, List.forall_mem_singleton.2 (isNumberChar_mark (by decide))⟩
    · exact ⟨digits, List.forall_mem_singleton.2 (isNumberChar_mark (by decide))⟩
  rw [List.append_assoc, List.cons_append]
  refine scalarText_of_number ?_ (isValueWord_of_hasForm .float ?_ ?_ (by decide))
  · intro c member
    rcases List.mem_append.1 member with front | back
    · exact isNumberChar_digits h front
    rcases List.mem_cons.1 back with rfl | back
    · exact isNumberChar_mark (by decide)
    rcases List.mem_append.1 back with mark | back
    · exact power.2 c mark
    · exact isNumberChar_digits digits back
  · simp
  · exact ⟨coefficient, [], 'e' :: (sign ++ exponent), rfl, .positive h, .inl rfl,
      .inr ⟨'e', sign ++ exponent, rfl, rfl, power.1⟩, by simp⟩

theorem scalarText_range {low high : List Char} (h : IsLiteral low) (h' : IsLiteral high) :
    ScalarText (low ++ '.' :: '.' :: high) := by
  refine .token (reads_range h h') ?_
  intro slash
  obtain ⟨c, tail, rfl, -⟩ := h.head
  obtain rfl : c = '/' := Option.some.inj slash
  rcases isLiteral_chars h '/' List.mem_cons_self with digit | dash
  · exact absurd digit (by decide)
  · exact absurd dash (by decide)

theorem scalarText_rangeTo {high : List Char} (h : IsLiteral high) :
    ScalarText ('.' :: '.' :: high) := by
  refine scalarText_of_number ?_ ⟨by simp, .inl (by simp)⟩
  refine List.forall_mem_cons.2 ⟨isNumberChar_mark (by decide), ?_⟩
  exact List.forall_mem_cons.2 ⟨isNumberChar_mark (by decide), fun c => isNumberChar_literal h⟩

/-! ## What is drawn -/

/-- Texts of a list are looked at one by one. -/
theorem yields_pick_text {texts : List (List Char)} (nonempty : texts ≠ [])
    (known : ∀ cs ∈ texts, cs = ['-'] ∨ cs = ['a', ':', 'b'] ∨ cs.head? ≠ some '/' ∧
      ∃ form ∈ [Scalar.bool, .int, .float, .quoted, .bareword], (Terminal.scalar form).Reads cs) :
    Yields (pick texts) ScalarText := by
  refine yields_pick nonempty ?_
  intro cs member
  rcases known cs member with rfl | rfl | ⟨noSlash, form, -, reads⟩
  · exact .dash
  · exact .pair
  · exact .token reads noSlash

theorem yields_smallDecimal : Yields smallDecimal ScalarText := by
  refine yields_bind fun steps => yields_pure ?_
  unfold Double.fixedRatio
  dsimp only
  rw [String.toList_ofList, List.append_assoc, List.cons_append]
  refine scalarText_decimal ?_
    (Double.isDigits_behind (isDigits_digits _) isAsciiDigit_of_mem_zeros)
  cases decide (200 * (steps : Int) - 100 * grain < 0) with
  | false => exact .positive (isDigits_digits _)
  | true => exact .negative (isDigits_digits _)

theorem yields_scientific : Yields scientific ScalarText := by
  refine yields_bind fun coefficient => ?_
  refine (yields_pick (p := (· ∈ [[], ['-'], ['+']])) (by simp) (fun _ => id)).bind ?_
  intro sign signed
  refine yields_bind fun exponent => yields_pure ?_
  exact scalarText_scientific (isDigits_digits coefficient) signed (isDigits_digits exponent)

theorem yields_number : Yields number ScalarText := by
  refine yields_bind fun form => yields_ite ?_ (yields_ite ?_ (yields_ite ?_ ?_))
  · exact yields_bind fun n => yields_pure (scalarText_integer (isLiteral_decimalChars n))
  · exact yields_smallDecimal
  · exact yields_scientific
  · exact yields_pick_text (by decide) (by decide +kernel)

/-- The characters of random strings need no backslash. -/
theorem inside_of_stringChars {afterBackslash : Bool} (plain : ∀ c ∈ cs, c ∈ stringChars)
    (h : afterBackslash = false) : Inside afterBackslash cs := by
  induction cs generalizing afterBackslash with
  | nil => exact h
  | cons c cs ih =>
    obtain ⟨first, others⟩ := List.forall_mem_cons.1 plain
    have apart : (stringChars.all fun c => c != '"' && c != '\\') = true := by decide +kernel
    obtain ⟨noQuote, noBackslash⟩ : c ≠ '"' ∧ c ≠ '\\' := by
      simpa using List.all_eq_true.1 apart c first
    exact ⟨fun quote => absurd quote noQuote, ih others (beq_false_of_ne noBackslash)⟩

theorem yields_quotedString : Yields quotedString ScalarText := by
  refine yields_bind fun known => yields_ite ?_ ?_
  · exact yields_pick_text (by decide) (by decide +kernel)
  · refine yields_bind fun length => ?_
    refine (yields_times (yields_pick (p := (· ∈ stringChars)) (by simp [stringChars])
      (fun _ => id)) _).bind ?_
    intro body plain
    exact yields_pure (.token (reads_quoted (inside_of_stringChars plain.2 rfl)) (by simp))

theorem yields_boundedRange : Yields boundedRange ScalarText := by
  refine yields_bind fun low => yields_bind fun high => yields_pick (by simp) ?_
  have literal := isLiteral_decimalChars low
  have literal' := isLiteral_decimalChars high
  intro cs member
  rcases List.mem_pair.1 member with rfl | rfl
  · exact scalarText_range literal literal'
  · exact scalarText_rangeTo literal'

theorem yields_scalar : Yields scalar ScalarText := by
  refine yields_bind fun form => ?_
  split
  · exact yields_number
  · exact yields_pick_text (by decide) (by decide +kernel)
  · exact yields_quotedString
  · exact yields_pick_text (by decide) (by decide +kernel)
  · exact yields_boundedRange
  · exact yields_identifier.mono fun _ => scalarText_of_isIdentifier

end Fuzz

end CommandLine
