import CommandLine.Proofs.Numeral.ShortestDigits
import CommandLine.Proofs.Terminal.Number

/-!
# Doubles as they are written

However a decimal number is laid out, the reader of numbers finds the same number in it
(`chars_writes`). The shortest digits of a double read back as no other one, so different doubles
are written in different ways (`text_injective`).
-/

namespace CommandLine.Double
open CommandLine.Numeral CommandLine.Text CommandLine.Terminal

/-! ## Digits -/

theorem ofDigits_append (as bs : List Nat) :
    ofDigits (as ++ bs) = ofDigits as * 10 ^ bs.length + ofDigits bs := by
  induction bs using List.reverseRecOn with
  | nil => simp [ofDigits]
  | append_singleton bs b ih =>
    rw [← List.append_assoc, ofDigits_append_one, ih, ofDigits_append_one, List.length_append,
      List.length_singleton, pow_succ]
    ring

variable {ds es : List Char}

theorem magnitudeOf_append (ds : List Char) (h : ∀ c ∈ es, isAsciiDigit c = true) :
    magnitudeOf (ds ++ es) = magnitudeOf ds * 10 ^ es.length + magnitudeOf es := by
  have count := (readDigits_of_isAsciiDigit h
    fun (impossible : true = false) => absurd impossible (by decide)).2
  rw [magnitudeOf, List.filterMap_append, ofDigits_append, count, magnitudeOf, magnitudeOf]

theorem magnitudeOf_zeros (n : Nat) : magnitudeOf (zeros n) = 0 := by
  induction n with
  | zero => rfl
  | succ n ih =>
    have more : zeros (n + 1) = zeros n ++ zeros 1 := List.replicate_succ'
    rw [more, magnitudeOf_append _ isAsciiDigit_of_mem_zeros, ih]
    rfl

theorem magnitudeOf_append_zeros (ds : List Char) (n : Nat) :
    magnitudeOf (ds ++ zeros n) = magnitudeOf ds * 10 ^ n := by
  rw [magnitudeOf_append ds isAsciiDigit_of_mem_zeros, magnitudeOf_zeros, Nat.add_zero, zeros,
    List.length_replicate]

theorem magnitudeOf_zeros_append (n : Nat) (h : ∀ c ∈ ds, isAsciiDigit c = true) :
    magnitudeOf (zeros n ++ ds) = magnitudeOf ds := by
  rw [magnitudeOf_append _ h, magnitudeOf_zeros, Nat.zero_mul, Nat.zero_add]

theorem isDigits_append (h : IsDigits ds) (more : ∀ c ∈ es, isAsciiDigit c = true) :
    IsDigits (ds ++ es) :=
  ⟨by simp [h.1], List.forall_mem_append.2 ⟨h.2, more⟩⟩

theorem isDigits_behind (h : IsDigits ds) (more : ∀ c ∈ es, isAsciiDigit c = true) :
    IsDigits (es ++ ds) :=
  ⟨by simp [h.1], List.forall_mem_append.2 ⟨more, h.2⟩⟩

theorem exists_zeros (ds : List Char) : ∃ n, ds = dropTrailingZeros ds ++ zeros n := by
  let last : List Char := ds.reverse.takeWhile (· == '0')
  have same : last.reverse = zeros last.length := by
    rw [zeros, List.eq_replicate_iff, List.length_reverse]
    refine ⟨rfl, fun c mem => ?_⟩
    have zero := List.all_eq_true.1 List.all_takeWhile c (List.mem_reverse.1 mem)
    simpa using zero
  have cut : ds.reverse = last ++ ds.reverse.dropWhile (· == '0') :=
    List.takeWhile_append_dropWhile.symm
  refine ⟨last.length, ?_⟩
  rw [dropTrailingZeros, ← same, ← List.reverse_append, ← cut, List.reverse_reverse]

/-! ## Texts of numbers -/

/-- A text that the reader of numbers finds a number in: digits, perhaps a point with digits behind
it, and perhaps an exponent. -/
inductive Writes (x : ℚ) : List Char → Prop where
  | intro {whole point power : List Char} (digits : IsDigits whole) (pointed : IsPoint point)
      (powered : IsExponent power)
      (same : (magnitudeOf (whole ++ point.drop 1) : ℚ) *
        10 ^ (valueOf (power.drop 1) - (point.drop 1).length) = x) :
      Writes x (whole ++ point ++ power)

namespace Writes

variable {x y : ℚ} {cs : List Char}

theorem read (h : Writes x cs) :
    ∃ ns e, readUnsigned cs = some (ns, e) ∧ (ofDigits ns : ℚ) * 10 ^ e = x := by
  obtain ⟨digits, pointed, powered, same⟩ := h
  exact ⟨_, _, readUnsigned_eq digits pointed powered, same⟩

/-- A text writes one number. -/
theorem unique (h : Writes x cs) (other : Writes y cs) : x = y := by
  obtain ⟨ns, e, read, rfl⟩ := h.read
  obtain ⟨ns', e', read', rfl⟩ := other.read
  obtain ⟨rfl, rfl⟩ : ns = ns' ∧ e = e' := by simpa [read] using read'
  rfl

theorem head (h : Writes x cs) : ∃ c tail, cs = c :: tail ∧ isAsciiDigit c = true := by
  obtain ⟨digits, -, -, -⟩ := h
  obtain ⟨c, tail, rfl⟩ := List.exists_cons_of_ne_nil digits.1
  exact ⟨c, _, rfl, digits.2 c List.mem_cons_self⟩

theorem mem (h : Writes x cs) {c : Char} (member : c ∈ cs) :
    isAsciiDigit c = true ∨ c ∈ ['.', 'e', 'E', '+', '-'] := by
  obtain ⟨digits, pointed, powered, -⟩ := h
  rcases List.mem_append.1 member with first | last
  · rcases List.mem_append.1 first with here | here
    · exact .inl (digits.2 c here)
    · rcases pointed with rfl | ⟨ds, rfl, after⟩
      · simp at here
      · rcases List.mem_cons.1 here with rfl | here
        · exact .inr (by simp)
        · exact .inl (after.2 c here)
  · rcases powered with rfl | ⟨mark, ds, rfl, marks, after⟩
    · simp at last
    · rcases List.mem_cons.1 last with rfl | here
      · have either : c = 'e' ∨ c = 'E' := by simpa [isMark] using marks
        rcases either with rfl | rfl <;> simp
      · unfold splitSign at after
        split at after
        · rcases List.mem_cons.1 here with rfl | here
          · exact .inr (by simp)
          · exact .inl (after.2 c here)
        · rcases List.mem_cons.1 here with rfl | here
          · exact .inr (by simp)
          · exact .inl (after.2 c here)
        · exact .inl (after.2 c here)

end Writes

/-! ## Layouts -/

theorem writes_fixed {whole fraction : List Char} (digits : IsDigits whole)
    (more : IsDigits fraction) :
    Writes (magnitudeOf (whole ++ fraction) * 10 ^ (-(fraction.length : ℤ)))
      (whole ++ '.' :: fraction) := by
  have text := Writes.intro digits (.inr ⟨fraction, rfl, more⟩) (.inl rfl) rfl
  have none : valueOf [] = 0 := rfl
  simpa [none] using text

theorem positional_writes (h : IsDigits ds) (point : Int) :
    Writes (magnitudeOf ds * 10 ^ (point - ds.length)) (positional ds point) := by
  have ten : (10 : ℚ) ≠ 0 := by norm_num
  unfold positional
  split
  · next before =>
    have zero : IsDigits ['0'] := ⟨by simp, List.forall_mem_singleton.2 rfl⟩
    have text := writes_fixed zero
      (isDigits_behind h (isAsciiDigit_of_mem_zeros (n := (-point).toNat)))
    have digits : magnitudeOf (['0'] ++ (zeros (-point).toNat ++ ds)) = magnitudeOf ds := by
      rw [← List.append_assoc]
      exact magnitudeOf_zeros_append ((-point).toNat + 1) h.2
    have places : -((zeros (-point).toNat ++ ds).length : ℤ) = point - ds.length := by
      simp only [zeros, List.length_append, List.length_replicate]
      omega
    rwa [digits, places] at text
  · split
    · next behind =>
      have zero : IsDigits ['0'] := ⟨by simp, List.forall_mem_singleton.2 rfl⟩
      have text := writes_fixed
        (isDigits_append h (isAsciiDigit_of_mem_zeros (n := point.toNat - ds.length))) zero
      have value : (magnitudeOf (ds ++ zeros (point.toNat - ds.length) ++ zeros 1) : ℚ) *
          10 ^ (-((['0'] : List Char).length : ℤ)) = magnitudeOf ds * 10 ^ (point - ds.length) := by
        rw [magnitudeOf_append_zeros, magnitudeOf_append_zeros]
        have power : point - ds.length = ((point.toNat - ds.length : ℕ) : ℤ) := by omega
        rw [power, zpow_natCast]
        push_cast
        simp
      rw [← value]
      exact text
    · next inside =>
      have front : IsDigits (ds.take point.toNat) :=
        ⟨List.ne_nil_of_length_pos (by rw [List.length_take]; omega),
          fun c mem => h.2 c (List.mem_of_mem_take mem)⟩
      have back : IsDigits (ds.drop point.toNat) :=
        ⟨List.ne_nil_of_length_pos (by rw [List.length_drop]; omega),
          fun c mem => h.2 c (List.mem_of_mem_drop mem)⟩
      have text := writes_fixed front back
      have places : -((ds.drop point.toNat).length : ℤ) = point - ds.length := by
        rw [List.length_drop]
        omega
      rwa [List.take_append_drop, places] at text

theorem valueOf_sign_append (n : Int) (k : Nat) :
    valueOf ((if n < 0 then '-' else '+') :: (zeros k ++ digits n.natAbs)) = n := by
  have magnitude : magnitudeOf (zeros k ++ digits n.natAbs) = n.natAbs := by
    rw [magnitudeOf_zeros_append k (isDigits_digits _).2, magnitudeOf_digits]
  split
  · simp only [valueOf, splitSign, magnitude, if_true]
    omega
  · simp only [valueOf, splitSign, magnitude, Bool.false_eq_true, if_false]
    omega

theorem scientific_writes (h : IsDigits ds) (width : Nat) (exponent : Int) :
    Writes (magnitudeOf ds * 10 ^ (exponent + 1 - ds.length)) (scientific width ds exponent) := by
  let power : List Char := 'e' :: (if exponent < 0 then '-' else '+') ::
    (zeros (width - (digits exponent.natAbs).length) ++ digits exponent.natAbs)
  have behind : IsDigits
      (zeros (width - (digits exponent.natAbs).length) ++ digits exponent.natAbs) :=
    isDigits_behind (isDigits_digits _) isAsciiDigit_of_mem_zeros
  have powered : IsExponent power := by
    refine .inr ⟨_, _, rfl, rfl, ?_⟩
    split <;> exact behind
  have value : valueOf (power.drop 1) = exponent := valueOf_sign_append _ _
  obtain ⟨d, tail, rfl⟩ := List.exists_cons_of_ne_nil h.1
  have first : IsDigits [d] := ⟨by simp, List.forall_mem_singleton.2 (h.2 d List.mem_cons_self)⟩
  cases tail with
  | nil =>
    have text := Writes.intro first (.inl rfl) powered rfl
    rw [value] at text
    simpa [scientific, power] using text
  | cons e rest =>
    have others : IsDigits (e :: rest) :=
      ⟨by simp, fun c mem => h.2 c (List.mem_cons_of_mem _ mem)⟩
    have text := Writes.intro first (.inr ⟨e :: rest, rfl, others⟩) powered rfl
    have places : exponent + 1 - ((d :: e :: rest).length : ℤ) =
        exponent - ((e :: rest).length : ℤ) := by
      simp only [List.length_cons]
      omega
    rw [value] at text
    rw [places]
    simpa [scientific, power] using text

/-- However a decimal number is laid out, it is that number that is written. -/
theorem chars_writes (layout : Layout) {d : Decimal} (h : d.coefficient ≠ 0) :
    Writes d.value (layout.chars d) := by
  obtain ⟨n, split_eq⟩ := exists_zeros (digits d.coefficient)
  generalize ds_eq : dropTrailingZeros (digits d.coefficient) = ds at split_eq
  have coefficient : d.coefficient = magnitudeOf ds * 10 ^ n := by
    rw [← magnitudeOf_append_zeros, ← split_eq, magnitudeOf_digits]
  have some : IsDigits ds := by
    refine ⟨?_, fun c mem => (isDigits_digits d.coefficient).2 c ?_⟩
    · rintro rfl
      exact h (coefficient.trans (Nat.zero_mul _))
    · rw [split_eq]
      exact List.mem_append_left _ mem
  have length : ((digits d.coefficient).length : ℤ) = ds.length + n := by
    rw [split_eq, zeros, List.length_append, List.length_replicate]
    push_cast
    rfl
  have value : d.value = magnitudeOf ds * 10 ^ (d.exponent + n) := by
    rw [Decimal.value, coefficient, zpow_add₀ (by norm_num), zpow_natCast]
    push_cast
    ring
  have places : d.exponent + (digits d.coefficient).length - 1 + 1 - ds.length =
      d.exponent + n := by
    rw [length]
    ring
  simp only [Layout.chars, ds_eq]
  rw [value, ← places]
  split
  · exact positional_writes some _
  · exact scientific_writes some _ _

/-! ## Doubles -/

/-- The number that the double of a rank is written as, without its sign. -/
def shortestValue (rank : Nat) : ℚ := if rank = 0 then 0 else (shortest rank).value

theorem shortestValue_injective : Function.Injective shortestValue := by
  intro r s same
  have positive {n : Nat} (h : n ≠ 0) : 0 < (shortest n).value :=
    (shortest_readsBack (Nat.pos_of_ne_zero h)).value_pos (Nat.pos_of_ne_zero h)
  unfold shortestValue at same
  split at same <;> split at same
  · omega
  · next _ h => exact absurd same (positive h).ne
  · next h _ => exact absurd same (positive h).ne'
  · next hr hs =>
    exact (shortest_readsBack (Nat.pos_of_ne_zero hr)).rank_eq
      (shortest_readsBack (Nat.pos_of_ne_zero hs)) same

/-- A finite double is written with its sign before a number. -/
theorem toList_text_finite (negative : Bool) (rank : Fin finiteDoubles) :
    ∃ cs, (text (.finite negative rank)).toList = sign negative ++ cs ∧
      Writes (shortestValue rank) cs := by
  refine ⟨_, String.toList_ofList, ?_⟩
  unfold shortestValue
  split
  · have zero : IsDigits ['0'] := ⟨by simp, List.forall_mem_singleton.2 rfl⟩
    have value : magnitudeOf (['0'] ++ ['0']) = 0 := rfl
    have text := writes_fixed zero zero
    rwa [value, Nat.cast_zero, zero_mul] at text
  · next h =>
    refine chars_writes _ fun zero => ?_
    have positive := (shortest_readsBack (Nat.pos_of_ne_zero h)).value_pos (Nat.pos_of_ne_zero h)
    simp [Decimal.value, zero] at positive

theorem exists_digit (negative : Bool) (rank : Fin finiteDoubles) :
    ∃ c ∈ (text (.finite negative rank)).toList, isAsciiDigit c = true := by
  obtain ⟨cs, same, writes⟩ := toList_text_finite negative rank
  obtain ⟨c, tail, rfl, digit⟩ := writes.head
  exact ⟨c, by simp [same], digit⟩

theorem mem_text {x : Double} {c : Char} (h : c ∈ x.text.toList) :
    isAsciiDigit c = true ∨ c ∈ "-+.eEinfa".toList := by
  cases x with
  | finite negative rank =>
    obtain ⟨cs, same, writes⟩ := toList_text_finite negative rank
    rw [same, List.mem_append] at h
    rcases h with sign | number
    · cases negative with
      | false => simp [Double.sign] at sign
      | true =>
        rw [List.mem_singleton.1 sign]
        exact .inr (by decide)
    · rcases writes.mem number with digit | mark
      · exact .inl digit
      · right
        revert mark
        simp
        grind
  | infinite negative =>
    right
    cases negative <;> simp_all [text] <;> grind
  | nan =>
    right
    simp_all [text]
    grind

/-- Different doubles are written in different ways. -/
theorem text_injective : Function.Injective text := by
  intro x y same
  -- Only finite doubles are written with digits.
  have word {x : Double} (h : ∀ negative rank, x ≠ .finite negative rank) :
      ∀ c ∈ x.text.toList, isAsciiDigit c = false := by
    cases x with
    | finite negative rank => exact absurd rfl (h negative rank)
    | infinite negative => cases negative <;> simp [text] <;> decide
    | nan => simp [text]; decide
  have apart (negative : Bool) (rank : Fin finiteDoubles) {x : Double}
      (h : ∀ negative rank, x ≠ .finite negative rank) : text (.finite negative rank) ≠ x.text := by
    intro same
    obtain ⟨c, mem, digit⟩ := exists_digit negative rank
    rw [same] at mem
    exact absurd digit (by simp [word h c mem])
  cases x with
  | finite negative r =>
    cases y with
    | finite negative' s =>
      obtain ⟨cs, left, writes⟩ := toList_text_finite negative r
      obtain ⟨ds, right, writes'⟩ := toList_text_finite negative' s
      obtain ⟨c, cs, rfl, digit⟩ := writes.head
      obtain ⟨d, ds, rfl, digit'⟩ := writes'.head
      have minus : c ≠ '-' := ne_of_isAsciiDigit digit rfl
      have minus' : d ≠ '-' := ne_of_isAsciiDigit digit' rfl
      have chars := congrArg String.toList same
      rw [left, right] at chars
      obtain ⟨rfl, rest⟩ : negative = negative' ∧ c :: cs = d :: ds := by
        cases negative <;> cases negative' <;> simp_all [sign]
      rw [rest] at writes
      rw [Fin.ext (shortestValue_injective (writes.unique writes'))]
    | infinite | nan => exact absurd same (apart _ _ (by simp))
  | infinite negative =>
    cases y with
    | finite => exact absurd same.symm (apart _ _ (by simp))
    | infinite negative' => revert same; cases negative <;> cases negative' <;> decide
    | nan => revert same; cases negative <;> decide
  | nan =>
    cases y with
    | finite => exact absurd same.symm (apart _ _ (by simp))
    | infinite negative => revert same; cases negative <;> decide
    | nan => rfl

end CommandLine.Double
