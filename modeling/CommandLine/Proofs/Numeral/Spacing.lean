import CommandLine.Numeral.Double
import Mathlib.Algebra.Group.Nat.Defs

/-!
# How close doubles are

The value of a rank in units grows by `spacing` from each rank to the next. The spacing never gets
smaller, and no double is more than `2 ^ 53` spacings from zero.
-/

namespace CommandLine.Double

/-- How far it is from the double of a rank to the next one, in units. -/
def spacing (rank : Nat) : Nat := if rank < stretch then 1 else 2 ^ (rank / stretch - 1)

theorem stretch_pos : 0 < stretch := Nat.pow_pos (by decide)

variable {rank : Nat}

/-- Ranks beyond the first stretch, by the stretch and the place in it. -/
theorem exists_place (h : stretch ≤ rank) :
    ∃ q m, m < stretch ∧ rank = stretch * (q + 1) + m := by
  have whole := Nat.div_add_mod rank stretch
  have later : 1 ≤ rank / stretch := (Nat.one_le_div_iff stretch_pos).2 h
  refine ⟨rank / stretch - 1, rank % stretch, Nat.mod_lt _ stretch_pos, ?_⟩
  rw [Nat.sub_add_cancel later, whole]

theorem place_spec {q m : Nat} (h : m < stretch) :
    ¬ stretch * (q + 1) + m < stretch ∧ (stretch * (q + 1) + m) / stretch = q + 1 ∧
      (stretch * (q + 1) + m) % stretch = m := by
  refine ⟨?_, ?_, ?_⟩
  · have : stretch * 1 ≤ stretch * (q + 1) := Nat.mul_le_mul_left _ (by omega)
    omega
  · rw [Nat.mul_add_div stretch_pos, Nat.div_eq_of_lt h, Nat.add_zero]
  · rw [Nat.mul_add_mod, Nat.mod_eq_of_lt h]

theorem units_of_lt (h : rank < stretch) : units rank = rank := if_pos h

theorem units_place {q m : Nat} (h : m < stretch) :
    units (stretch * (q + 1) + m) = (stretch + m) * 2 ^ q := by
  obtain ⟨later, number, place⟩ := place_spec (q := q) h
  rw [units, if_neg later, place, number]
  rfl

theorem spacing_of_lt (h : rank < stretch) : spacing rank = 1 := if_pos h

theorem spacing_place {q m : Nat} (h : m < stretch) :
    spacing (stretch * (q + 1) + m) = 2 ^ q := by
  obtain ⟨later, number, -⟩ := place_spec (q := q) h
  rw [spacing, if_neg later, number, Nat.add_sub_cancel]

theorem spacing_pos (rank : Nat) : 0 < spacing rank := by
  unfold spacing
  split
  · exact Nat.one_pos
  · exact Nat.two_pow_pos _

theorem units_succ (rank : Nat) : units (rank + 1) = units rank + spacing rank := by
  by_cases first : rank < stretch
  · rw [units_of_lt first, spacing_of_lt first]
    by_cases last : rank + 1 = stretch
    · have place := units_place (q := 0) stretch_pos
      rw [Nat.zero_add, Nat.mul_one, Nat.add_zero, Nat.pow_zero, Nat.mul_one] at place
      rw [last, place]
    · exact units_of_lt (by omega)
  · obtain ⟨q, m, small, rfl⟩ := exists_place (Nat.le_of_not_lt first)
    rw [units_place small, spacing_place small]
    by_cases last : m + 1 = stretch
    · -- The next rank opens a stretch whose gaps are twice as wide.
      have next : stretch * (q + 1) + m + 1 = stretch * (q + 1 + 1) + 0 := by
        rw [Nat.mul_succ stretch (q + 1)]
        omega
      rw [next, units_place stretch_pos, Nat.pow_succ, ← Nat.succ_mul]
      have : stretch + m + 1 = stretch * 2 := by omega
      rw [Nat.succ_eq_add_one, this, Nat.add_zero, Nat.mul_comm (2 ^ q) 2, Nat.mul_assoc]
    · rw [Nat.add_assoc, units_place (by omega), ← Nat.succ_mul]
      rfl

theorem spacing_le_succ (rank : Nat) : spacing rank ≤ spacing (rank + 1) := by
  by_cases first : rank < stretch
  · rw [spacing_of_lt first]
    exact spacing_pos _
  · rw [spacing, spacing, if_neg first, if_neg (by omega)]
    have : rank / stretch ≤ (rank + 1) / stretch := Nat.div_le_div_right (by omega)
    exact Nat.pow_le_pow_right (by decide) (by omega)

theorem units_lt_units {r s : Nat} (h : r < s) : units r < units s := by
  induction s with
  | zero => omega
  | succ s ih =>
    have step : units s < units (s + 1) := by
      rw [units_succ]
      exact Nat.lt_add_of_pos_right (spacing_pos s)
    by_cases last : r = s
    · rwa [last]
    · exact Nat.lt_trans (ih (by omega)) step

theorem units_le_units {r s : Nat} (h : r ≤ s) : units r ≤ units s := by
  rcases Nat.lt_or_eq_of_le h with less | rfl
  · exact Nat.le_of_lt (units_lt_units less)
  · exact Nat.le_refl _

/-- A double is a number of spacings that has at most fifty-three binary digits. -/
theorem units_succ_le (rank : Nat) : units (rank + 1) ≤ 2 ^ 53 * spacing rank := by
  have double : 2 ^ 53 = 2 * stretch := rfl
  rw [units_succ]
  by_cases first : rank < stretch
  · rw [units_of_lt first, spacing_of_lt first]
    omega
  · obtain ⟨q, m, small, rfl⟩ := exists_place (Nat.le_of_not_lt first)
    rw [units_place small, spacing_place small, ← Nat.succ_mul]
    exact Nat.mul_le_mul_right _ (by omega)

end CommandLine.Double
