import CommandLine.Proofs.Text.Stopping
import CommandLine.Text.Character

/-!
# Letters, digits and other numerals

How the classes of characters lie to each other: every decimal digit is a numeral, and no letter
is one. The tables are compared in one pass over both of them.
-/

namespace CommandLine.Text

/-! ## Sets of code points -/

namespace Intervals

/-- Intervals in the order in which they are searched, with a number in each. -/
def Ascending (is : Intervals) : Prop :=
  (∀ i ∈ is, i.1 ≤ i.2) ∧ is.Pairwise fun i j => i.2 < j.1

/-- Whether intervals ascend from a number on. -/
def ascends (low : Nat) : Intervals → Bool
  | [] => true
  | i :: is => low ≤ i.1 && i.1 ≤ i.2 && ascends (i.2 + 1) is

/-- Whether every interval lies in one of the other set. The other set is searched on from where
the search before ended. -/
def within : Intervals → Intervals → Bool
  | [], _ => true
  | i :: is, js =>
    match js.dropWhile fun j => j.2 < i.1 with
    | [] => false
    | j :: js => j.1 ≤ i.1 && i.2 ≤ j.2 && within is (j :: js)

/-- Whether no interval meets one of the other set, searched in the same way. -/
def apart : Intervals → Intervals → Bool
  | [], _ => true
  | i :: is, js =>
    match js.dropWhile fun j => j.2 < i.1 with
    | [] => true
    | j :: js => i.2 < j.1 && apart is (j :: js)

variable {is js : Intervals} {low n : Nat}

theorem bounds_of_ascends (h : is.ascends low = true) : ∀ i ∈ is, low ≤ i.1 ∧ i.1 ≤ i.2 := by
  induction is generalizing low with
  | nil => exact List.forall_mem_nil _
  | cons i is ih =>
    simp only [ascends, Bool.and_eq_true, decide_eq_true_eq] at h
    obtain ⟨⟨above, filled⟩, later⟩ := h
    refine List.forall_mem_cons.2 ⟨⟨above, filled⟩, ?_⟩
    intro j member
    obtain ⟨above', filled'⟩ := ih later j member
    omega

theorem ascending_of_ascends (h : is.ascends low = true) : is.Ascending := by
  refine ⟨fun i member => (bounds_of_ascends h i member).2, ?_⟩
  induction is generalizing low with
  | nil => exact .nil
  | cons i is ih =>
    simp only [ascends, Bool.and_eq_true] at h
    refine List.pairwise_cons.2 ⟨?_, ih h.2⟩
    intro j member
    exact (bounds_of_ascends h.2 j member).1

/-- The search does not end before it comes to an interval that holds the number. -/
theorem Ascending.has_of_mem (ascending : is.Ascending) {i : Nat × Nat} (member : i ∈ is)
    (above : i.1 ≤ n) (below : n ≤ i.2) : is.has n = true := by
  induction is with
  | nil => exact absurd member List.not_mem_nil
  | cons j is ih =>
    obtain ⟨filled, ordered⟩ := ascending
    obtain ⟨here, filled⟩ := List.forall_mem_cons.1 filled
    obtain ⟨first, ordered⟩ := List.pairwise_cons.1 ordered
    rw [has]
    rcases List.mem_cons.1 member with rfl | member
    · rw [if_neg (by omega), if_pos below]
    · have behind := first i member
      rw [if_neg (by omega), if_neg (by omega)]
      exact ih ⟨filled, ordered⟩ member

/-- An interval ends before another one, or is not passed over on the way to it. -/
theorem mem_dropWhile_or {i j : Nat × Nat} (member : j ∈ js) :
    j.2 < i.1 ∨ j ∈ js.dropWhile fun j => j.2 < i.1 := by
  rw [← List.takeWhile_append_dropWhile (p := fun j => decide (j.2 < i.1)) (l := js),
    List.mem_append] at member
  rcases member with passed | left
  · exact .inl (by simpa using List.all_eq_true.1 List.all_takeWhile j passed)
  · exact .inr left

theorem exists_of_within (h : is.within js = true) : ∀ i ∈ is, ∃ j ∈ js, j.1 ≤ i.1 ∧ i.2 ≤ j.2 := by
  induction is generalizing js with
  | nil => exact List.forall_mem_nil _
  | cons i is ih =>
    rw [within] at h
    split at h
    · cases h
    · next j later left =>
      simp only [Bool.and_eq_true, decide_eq_true_eq] at h
      have sub : j :: later ⊆ js := left ▸ (List.dropWhile_sublist _).subset
      refine List.forall_mem_cons.2 ⟨⟨j, sub List.mem_cons_self, h.1⟩, ?_⟩
      intro i' member
      obtain ⟨j', member', inside⟩ := ih h.2 i' member
      exact ⟨j', sub member', inside⟩

theorem apart_spec (h : is.apart js = true) (ascending : is.Ascending)
    (ascending' : js.Ascending) : ∀ i ∈ is, ∀ j ∈ js, i.2 < j.1 ∨ j.2 < i.1 := by
  induction is generalizing js with
  | nil => exact List.forall_mem_nil _
  | cons i is ih =>
    obtain ⟨filled, ordered⟩ := ascending
    obtain ⟨here, filled⟩ := List.forall_mem_cons.1 filled
    obtain ⟨first, ordered⟩ := List.pairwise_cons.1 ordered
    rw [apart] at h
    -- Whatever ends before the first interval ends before all of them.
    have passed {j : Nat × Nat} (before : j.2 < i.1) : ∀ i' ∈ is, j.2 < i'.1 := by
      intro i' member
      have := first i' member
      omega
    split at h
    · next none =>
      have before : ∀ j ∈ js, j.2 < i.1 := by
        intro j member
        rcases mem_dropWhile_or (i := i) member with before | left
        · exact before
        · rw [none] at left
          exact absurd left List.not_mem_nil
      refine List.forall_mem_cons.2 ⟨fun j member => .inr (before j member), ?_⟩
      intro i' member j member'
      exact .inr (passed (before j member') i' member)
    · next j later left =>
      simp only [Bool.and_eq_true, decide_eq_true_eq] at h
      have sub : (j :: later).Sublist js := left ▸ List.dropWhile_sublist _
      have ascending'' : Ascending (j :: later) :=
        ⟨fun k member => ascending'.1 k (sub.subset member), ascending'.2.sublist sub⟩
      have behind : ∀ k ∈ j :: later, i.2 < k.1 := by
        refine List.forall_mem_cons.2 ⟨h.1, ?_⟩
        intro k member
        have next := (List.pairwise_cons.1 ascending''.2).1 k member
        have filled' := ascending''.1 j List.mem_cons_self
        omega
      have meets := ih h.2 ⟨filled, ordered⟩ ascending''
      refine List.forall_mem_cons.2 ⟨?_, ?_⟩
      · intro k member
        rcases mem_dropWhile_or (i := i) member with before | member
        · exact .inr before
        · exact .inl (behind k (left ▸ member))
      · intro i' member k member'
        rcases mem_dropWhile_or (i := i) member' with before | member'
        · exact .inr (passed before i' member)
        · exact meets i' member k (left ▸ member')

/-- Sets of which every interval lies in one of the other have no more than that. -/
theorem has_of_within (h : is.within js = true) (ascending : js.Ascending)
    (here : is.has n = true) : js.has n = true := by
  obtain ⟨i, member, above, below⟩ := exists_of_has here
  obtain ⟨j, member', start, stop⟩ := exists_of_within h i member
  exact ascending.has_of_mem member' (by omega) (by omega)

/-- Sets of which no two intervals meet have nothing in common. -/
theorem has_eq_false_of_apart (h : is.apart js = true) (ascending : is.Ascending)
    (ascending' : js.Ascending) (here : is.has n = true) : js.has n = false := by
  obtain ⟨i, member, above, below⟩ := exists_of_has here
  rw [Bool.eq_false_iff]
  intro there
  obtain ⟨j, member', above', below'⟩ := exists_of_has there
  have := apart_spec h ascending ascending' i member j member'
  omega

end Intervals

/-! ## Classes of characters -/

theorem ascending_letterIntervals : letterIntervals.Ascending := by
  have ascends : letterIntervals.ascends 0 = true := by decide +kernel
  exact Intervals.ascending_of_ascends ascends

theorem ascending_numeralIntervals : numeralIntervals.Ascending := by
  have ascends : numeralIntervals.ascends 0 = true := by decide +kernel
  exact Intervals.ascending_of_ascends ascends

variable {c : Char}

theorem isNumeral_of_isDigit (h : isDigit c = true) : isNumeral c = true :=
  Intervals.has_of_within (by decide +kernel) ascending_numeralIntervals h

theorem isNumeral_of_isLetter (h : isLetter c = true) : isNumeral c = false :=
  Intervals.has_eq_false_of_apart (by decide +kernel) ascending_letterIntervals
    ascending_numeralIntervals h

theorem isDigit_of_isLetter (h : isLetter c = true) : isDigit c = false := by
  rw [Bool.eq_false_iff]
  intro digit
  have letter := isNumeral_of_isLetter h
  rw [isNumeral_of_isDigit digit] at letter
  cases letter

end CommandLine.Text
