import CommandLine.Numeral.DoubleText
import CommandLine.Proofs.Numeral.Literal
import CommandLine.Proofs.Numeral.Spacing
import Mathlib.Algebra.Order.Field.Power
import Mathlib.Data.Rat.Cast.Order
import Mathlib.Tactic.Linarith
import Mathlib.Tactic.Positivity
import Mathlib.Tactic.Ring

/-!
# The shortest digits of a double

The search for the shortest digits always ends with a decimal number that reads back as the double
(`shortest_readsBack`), for seventeen digits are enough, and no decimal number reads back as two
doubles (`ReadsBack.rank_eq`).
-/

namespace CommandLine.Double
open CommandLine.Numeral

-- How many units make one never matters, so it is not worked out.
attribute [local irreducible] unitsPerOne

/-! ## Lengths -/

/-- The last power of ten up to a positive number that is given in smaller units. -/
theorem pow_length_le {num den q k : Nat} (positive : 0 < q) (h : q * den ≤ num * 10 ^ k) :
    (10 : ℚ) ^ (((digits q).length : ℤ) - k - 1) * den ≤ num := by
  have length : 1 ≤ (digits q).length := List.length_pos_iff.2 (isDigits_digits q).1
  have lower : (10 : ℚ) ^ ((digits q).length - 1) * den ≤ num * 10 ^ k := by
    exact_mod_cast (Nat.mul_le_mul_right den (pow_length_digits_le positive)).trans h
  have power : (10 : ℚ) ^ (((digits q).length : ℤ) - k - 1) =
      10 ^ ((digits q).length - 1) / 10 ^ k := by
    rw [← zpow_natCast, ← zpow_natCast, ← zpow_sub₀ (by norm_num)]
    congr 1
    omega
  rw [power, div_mul_eq_mul_div, div_le_iff₀ (by positivity)]
  exact lower

/-- A positive fraction is not less than the power of ten below its magnitude. -/
theorem pow_magnitude_le {num den : Nat} (hn : 0 < num) (hd : 0 < den) :
    (10 : ℚ) ^ (magnitude num den - 1) * den ≤ num := by
  unfold magnitude
  split
  · next large =>
    have whole : 0 < num / den := Nat.div_pos large hd
    have bound := pow_length_le (k := 0) whole (by simpa using Nat.div_mul_le_self num den)
    rw [decimalLength, if_neg (by omega)]
    simpa using bound
  · next small =>
    have inverse : 0 < den / num := Nat.div_pos (by omega) hn
    simp only [decimalLength, if_neg (show den / num ≠ 0 by omega)]
    generalize shift_eq : (digits (den / num)).length = shift
    -- The denominator is less than the numerator moved by so many places.
    have less : den < num * 10 ^ shift := by
      have bound : den / num < 10 ^ (digits (den / num)).length := lt_pow_length_digits _
      rw [shift_eq, Nat.div_lt_iff_lt_mul hn] at bound
      rwa [Nat.mul_comm]
    have moved : 0 < num * 10 ^ shift / den := Nat.div_pos (Nat.le_of_lt less) hd
    have bound := pow_length_le moved (Nat.div_mul_le_self (num * 10 ^ shift) den)
    rwa [if_neg (show num * Nat.pow 10 shift / den ≠ 0 from Nat.ne_of_gt moved)]

/-! ## Reading back -/

/-- What whole numbers are multiplied with to be compared with decimals of an exponent. -/
def up (exponent : Int) : Nat := Nat.pow 10 (-exponent).toNat

/-- How far decimals of an exponent lie apart, in half units multiplied with `up`. -/
def gap (exponent : Int) : Nat := 2 * unitsPerOne * Nat.pow 10 exponent.toNat

/-- Whether a decimal reads back as the double of a rank: it lies between the midpoints to the
neighbours, or on one of them if the rank is even. -/
def readsBack (rank : Nat) (exponent : Int) (c : Nat) : Bool :=
  let low := units (rank - 1) + units rank
  let high := units rank + units (rank + 1)
  (decide (low * up exponent < c * gap exponent) ||
      (rank % 2 == 0 && low * up exponent == c * gap exponent)) &&
    (decide (c * gap exponent < high * up exponent) ||
      (rank % 2 == 0 && c * gap exponent == high * up exponent))

/-- A decimal that reads back as the double of a rank. -/
def ReadsBack (rank : Nat) (d : Decimal) : Prop := readsBack rank d.exponent d.coefficient = true

/-- The two multiples around a number, the nearer one first. -/
def around (t gap : Nat) : Nat × Nat :=
  let c := t / gap
  let below := t - c * gap
  let above := (c + 1) * gap - t
  if decide (below < above) || (below == above && c % 2 == 0) then (c, c + 1) else (c + 1, c)

/-- The exponent of the decimals of so many digits near the double of a rank. -/
def exponentFor (rank count : Nat) : Int := magnitude (2 * units rank) (2 * unitsPerOne) - count

theorem candidate?_eq (rank count : Nat) :
    candidate? rank count =
      let e := exponentFor rank count
      let near := around (2 * units rank * up e) (gap e)
      if readsBack rank e near.1 then some ⟨near.1, e⟩
      else if readsBack rank e near.2 then some ⟨near.2, e⟩
      else none := rfl

theorem readsBack_of_candidate? {rank count : Nat} {d : Decimal}
    (h : candidate? rank count = some d) : ReadsBack rank d := by
  rw [candidate?_eq] at h
  dsimp only at h
  split at h
  · next first =>
    rw [← Option.some.inj h]
    exact first
  · split at h
    · next second =>
      rw [← Option.some.inj h]
      exact second
    · cases h

theorem up_pos (exponent : Int) : 0 < up exponent := Nat.pow_pos (by decide)

theorem unitsPerOne_pos : 0 < unitsPerOne := by decide +kernel

theorem gap_pos (exponent : Int) : 0 < gap exponent :=
  Nat.mul_pos (Nat.mul_pos (by decide) unitsPerOne_pos) (Nat.pow_pos (by decide))

/-- Decimals of an exponent lie apart by that power of ten. -/
theorem gap_eq (exponent : Int) :
    (gap exponent : ℚ) = 10 ^ exponent * (2 * unitsPerOne) * up exponent := by
  have power : (10 : ℚ) ^ exponent * 10 ^ (-exponent).toNat = 10 ^ exponent.toNat := by
    rw [← zpow_natCast, ← zpow_natCast, ← zpow_add₀ (by norm_num)]
    congr 1
    omega
  have cast : (gap exponent : ℚ) = 2 * unitsPerOne * 10 ^ exponent.toNat := by
    simp [gap]
  have scale : (up exponent : ℚ) = 10 ^ (-exponent).toNat := by simp [up]
  rw [cast, scale, ← power]
  ring

/-- The first of the two multiples is not further away than half their distance. -/
theorem around_spec {t g : Nat} (h : 0 < g) :
    2 * t ≤ 2 * ((around t g).1 * g) + g ∧ 2 * ((around t g).1 * g) ≤ 2 * t + g := by
  have whole : t / g * g + t % g = t := Nat.div_add_mod' t g
  have rest : t % g < g := Nat.mod_lt t h
  have next : (t / g + 1) * g = t / g * g + g := Nat.succ_mul _ _
  unfold around
  dsimp only
  split
  · next nearer =>
    have : t - t / g * g ≤ (t / g + 1) * g - t := by
      simp only [Bool.or_eq_true, decide_eq_true_eq, Bool.and_eq_true, beq_iff_eq] at nearer
      omega
    dsimp only
    omega
  · next further =>
    have : (t / g + 1) * g - t ≤ t - t / g * g := by
      simp only [Bool.or_eq_true, decide_eq_true_eq, Bool.and_eq_true, beq_iff_eq,
        not_or] at further
      omega
    dsimp only
    omega

/-! ## Seventeen digits -/

theorem units_pos {rank : Nat} (h : 0 < rank) : 0 < units rank := by
  have less := units_lt_units h
  omega

/-- Decimals of seventeen digits lie closer together than doubles do. -/
theorem gap_lt {rank : Nat} (h : 0 < rank) :
    gap (exponentFor rank 17) < 2 * (spacing (rank - 1) * up (exponentFor rank 17)) := by
  generalize e_eq : exponentFor rank 17 = e
  have positive := units_pos h
  have lower : (10 : ℚ) ^ (magnitude (2 * units rank) (2 * unitsPerOne) - 1) *
      (2 * unitsPerOne : ℕ) ≤ (2 * units rank : ℕ) :=
    pow_magnitude_le (by omega) (Nat.mul_pos (by decide) unitsPerOne_pos)
  have power : (10 : ℚ) ^ (magnitude (2 * units rank) (2 * unitsPerOne) - 1) =
      10 ^ e * 10 ^ 16 := by
    rw [← zpow_natCast, ← zpow_add₀ (by norm_num), ← e_eq, exponentFor]
    congr 1
    push_cast
    ring
  have scaled : gap e * 10 ^ 16 ≤ 2 * units rank * up e := by
    have : (gap e : ℚ) * 10 ^ 16 ≤ 2 * units rank * up e := by
      rw [power] at lower
      rw [gap_eq]
      have room : (0 : ℚ) ≤ up e := by positivity
      calc 10 ^ e * (2 * (unitsPerOne : ℚ)) * up e * 10 ^ 16
          = 10 ^ e * 10 ^ 16 * ((2 * unitsPerOne : ℕ) : ℚ) * up e := by push_cast; ring
        _ ≤ ((2 * units rank : ℕ) : ℚ) * up e := mul_le_mul_of_nonneg_right lower room
        _ = 2 * units rank * up e := by push_cast; ring
    exact_mod_cast this
  have size : units rank ≤ 2 ^ 53 * spacing (rank - 1) := by
    have bound := units_succ_le (rank - 1)
    rwa [Nat.sub_add_cancel h] at bound
  have wide : 2 * units rank * up e ≤ 2 ^ 53 * (2 * (spacing (rank - 1) * up e)) := by
    calc 2 * units rank * up e ≤ 2 * (2 ^ 53 * spacing (rank - 1)) * up e :=
          Nat.mul_le_mul_right _ (Nat.mul_le_mul_left _ size)
      _ = 2 ^ 53 * (2 * (spacing (rank - 1) * up e)) := by ring
  have := gap_pos e
  omega

theorem candidate?_seventeen {rank : Nat} (h : 0 < rank) : (candidate? rank 17).isSome = true := by
  have close := gap_lt h
  generalize e_eq : exponentFor rank 17 = e at close
  have near := around_spec (t := 2 * units rank * up e) (gap_pos e)
  have below : units rank = units (rank - 1) + spacing (rank - 1) := by
    rw [← units_succ, Nat.sub_add_cancel h]
  have above : units (rank + 1) = units rank + spacing rank := units_succ rank
  have wider : spacing (rank - 1) * up e ≤ spacing rank * up e := by
    have more := spacing_le_succ (rank - 1)
    rw [Nat.sub_add_cancel h] at more
    exact Nat.mul_le_mul_right _ more
  -- The midpoints are more than half the distance of decimals away from the double.
  have low : (units (rank - 1) + units rank) * up e + spacing (rank - 1) * up e =
      2 * units rank * up e := by
    rw [← Nat.add_mul]
    congr 1
    omega
  have high : (units rank + units (rank + 1)) * up e =
      2 * units rank * up e + spacing rank * up e := by
    rw [← Nat.add_mul]
    congr 1
    omega
  have first : readsBack rank e (around (2 * units rank * up e) (gap e)).1 = true := by
    have beyondLow : (units (rank - 1) + units rank) * up e <
        (around (2 * units rank * up e) (gap e)).1 * gap e := by omega
    have belowHigh : (around (2 * units rank * up e) (gap e)).1 * gap e <
        (units rank + units (rank + 1)) * up e := by omega
    simp [readsBack, beyondLow, belowHigh]
  rw [candidate?_eq, e_eq]
  simp [first]

attribute [local irreducible] candidate?

theorem searchDigits_succ (rank tries count : Nat) :
    searchDigits rank (tries + 1) count =
      match candidate? rank count with
      | some d => d
      | none => searchDigits rank tries (count + 1) := rfl

theorem exists_candidate {rank tries count : Nat}
    (h : ∃ n, count ≤ n ∧ n < count + tries ∧ (candidate? rank n).isSome = true) :
    ∃ n, candidate? rank n = some (searchDigits rank tries count) := by
  induction tries generalizing count with
  | zero => omega
  | succ tries ih =>
    rw [searchDigits_succ]
    split
    · next d found => exact ⟨count, found⟩
    · next found =>
      obtain ⟨n, first, last, some⟩ := h
      have later : count ≠ n := by
        rintro rfl
        simp [found] at some
      exact ih ⟨n, by omega, by omega, some⟩

/-- What a double is written as reads back as that double. -/
theorem shortest_readsBack {rank : Nat} (h : 0 < rank) : ReadsBack rank (shortest rank) := by
  obtain ⟨n, found⟩ : ∃ n, candidate? rank n = some (searchDigits rank 17 1) :=
    exists_candidate ⟨17, by omega, by omega, candidate?_seventeen h⟩
  exact readsBack_of_candidate? found

/-! ## Doubles that read back -/

namespace Decimal

/-- The number that a decimal stands for. -/
def value (d : Decimal) : ℚ := d.coefficient * 10 ^ d.exponent

theorem mul_gap (d : Decimal) :
    ((d.coefficient * gap d.exponent : ℕ) : ℚ) = d.value * (2 * unitsPerOne) * up d.exponent := by
  push_cast
  rw [gap_eq, value]
  ring

end Decimal

namespace ReadsBack

variable {r s rank : Nat} {d e : Decimal}

theorem bounds (h : ReadsBack rank d) :
    (units (rank - 1) + units rank : ℚ) ≤ d.value * (2 * unitsPerOne) ∧
      d.value * (2 * unitsPerOne) ≤ units rank + units (rank + 1) := by
  have scale : (0 : ℚ) < up d.exponent := by exact_mod_cast up_pos d.exponent
  simp only [ReadsBack, readsBack, Bool.and_eq_true, Bool.or_eq_true, decide_eq_true_eq,
    beq_iff_eq] at h
  have low : (units (rank - 1) + units rank) * up d.exponent ≤ d.coefficient * gap d.exponent := by
    omega
  have high : d.coefficient * gap d.exponent ≤ (units rank + units (rank + 1)) * up d.exponent := by
    omega
  have low' : ((units (rank - 1) + units rank) * up d.exponent : ℚ) ≤
      d.value * (2 * unitsPerOne) * up d.exponent := by
    rw [← d.mul_gap]
    exact_mod_cast low
  have high' : d.value * (2 * unitsPerOne) * up d.exponent ≤
      ((units rank + units (rank + 1)) * up d.exponent : ℚ) := by
    rw [← d.mul_gap]
    exact_mod_cast high
  exact ⟨le_of_mul_le_mul_right low' scale, le_of_mul_le_mul_right high' scale⟩

/-- Only decimals on a midpoint touch a bound, and they read back as the even neighbour. -/
theorem even (h : ReadsBack rank d)
    (tie : d.value * (2 * unitsPerOne) = units (rank - 1) + units rank ∨
      d.value * (2 * unitsPerOne) = units rank + units (rank + 1)) : rank % 2 = 0 := by
  have scaled (n : Nat) (same : d.value * (2 * unitsPerOne) = n) :
      n * up d.exponent = d.coefficient * gap d.exponent := by
    have : ((n * up d.exponent : ℕ) : ℚ) = ((d.coefficient * gap d.exponent : ℕ) : ℚ) := by
      rw [d.mul_gap, same]
      push_cast
      rfl
    exact_mod_cast this
  simp only [ReadsBack, readsBack, Bool.and_eq_true, Bool.or_eq_true, decide_eq_true_eq,
    beq_iff_eq] at h
  rcases tie with tie | tie
  · have := scaled (units (rank - 1) + units rank) (by push_cast; exact tie)
    omega
  · have := scaled (units rank + units (rank + 1)) (by push_cast; exact tie)
    omega

theorem value_pos (h : ReadsBack rank d) (positive : 0 < rank) : 0 < d.value := by
  have low := h.bounds.1
  have first : (0 : ℚ) < units rank := by exact_mod_cast units_pos positive
  have other : (0 : ℚ) ≤ units (rank - 1) := by positivity
  have one : (0 : ℚ) < 2 * unitsPerOne := by
    have : (0 : ℚ) < unitsPerOne := by exact_mod_cast unitsPerOne_pos
    linarith
  exact (pos_iff_pos_of_mul_pos (by linarith)).2 one

theorem not_lt (hr : ReadsBack r d) (hs : ReadsBack s e) (same : d.value = e.value) : ¬ r < s := by
  intro less
  have high := hr.bounds.2
  have low := hs.bounds.1
  rw [← same] at low
  have first : units r ≤ units (s - 1) := units_le_units (by omega)
  have second : units (r + 1) ≤ units s := units_le_units (by omega)
  have first' : (units r : ℚ) ≤ units (s - 1) := by exact_mod_cast first
  have second' : (units (r + 1) : ℚ) ≤ units s := by exact_mod_cast second
  -- The number is the midpoint between two neighbours, and only one of them is even.
  have next : s = r + 1 := by
    by_contra apart
    have strict : units (r + 1) < units s := units_lt_units (by omega)
    have strict' : (units (r + 1) : ℚ) < units s := by exact_mod_cast strict
    linarith
  have tie : d.value * (2 * unitsPerOne) = units r + units (r + 1) := le_antisymm high (by linarith)
  have evenR := hr.even (.inr tie)
  have evenS := hs.even (.inl (by rw [← same, tie, next, Nat.add_sub_cancel]))
  omega

/-- No number reads back as two doubles. -/
theorem rank_eq (hr : ReadsBack r d) (hs : ReadsBack s e) (same : d.value = e.value) : r = s := by
  have := not_lt hr hs same
  have := not_lt hs hr same.symm
  omega

end ReadsBack

end CommandLine.Double
