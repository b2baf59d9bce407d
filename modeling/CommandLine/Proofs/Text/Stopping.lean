import CommandLine.Terminal.Scan

/-!
# Scanners that stop

A scanner stops at some texts if it never reads into them: what it finds at the front of a text
is what it finds when such a text follows. Scanners made of classes of characters stop wherever
none of these classes goes on.
-/

namespace CommandLine.Text

/-- A code point of the intervals lies in one of them. -/
theorem Intervals.exists_of_has {is : Intervals} {n : Nat} (h : is.has n = true) :
    ∃ i ∈ is, i.1 ≤ n ∧ n ≤ i.2 := by
  induction is with
  | nil => simp [has] at h
  | cons i is ih =>
    obtain ⟨first, last⟩ := i
    rw [has] at h
    by_cases below : n < first
    · simp [below] at h
    · by_cases inside : n ≤ last
      · exact ⟨(first, last), List.mem_cons_self, by omega, inside⟩
      · obtain ⟨i, member, bounds⟩ := ih (by simpa [below, inside] using h)
        exact ⟨i, List.mem_cons_of_mem _ member, bounds⟩

/-- All blanks. -/
def blanks : List Char :=
  blankIntervals.flatMap fun i => (List.range' i.1 (i.2 + 1 - i.1)).map Char.ofNat

theorem mem_blanks {c : Char} (h : isBlank c = true) : c ∈ blanks := by
  obtain ⟨i, member, low, high⟩ := Intervals.exists_of_has h
  refine List.mem_flatMap.2 ⟨i, member, List.mem_map.2 ⟨c.toNat, ?_, Char.ofNat_toNat c⟩⟩
  rw [List.mem_range'_1]
  omega

namespace Scanner

/-- A scanner that finds at the front of a text what it finds when a stopping text follows. -/
def StopsAt (s : Scanner) (stop : List Char → Bool) : Prop :=
  ∀ cs rest, stop rest = true →
    s (cs ++ rest) = (s cs).map fun found => (found.1, found.2 ++ rest)

/-- A class of characters with which no stopping text begins. -/
def Outside (p : Char → Bool) (stop : List Char → Bool) : Prop :=
  ∀ c rest, stop (c :: rest) = true → p c = false

variable {stop : List Char → Bool} {s t : Scanner} {p q : Char → Bool}

/-- What is found before a stopping text is found there alone. -/
theorem StopsAt.alone (h : s.StopsAt stop) {l rest : List Char} (hrest : stop rest = true)
    (found : s (l ++ rest) = some (l, rest)) : s l = some (l, []) := by
  rw [h l rest hrest] at found
  obtain ⟨⟨l', r'⟩, alone, same⟩ := Option.map_eq_some_iff.1 found
  obtain ⟨rfl, tail⟩ : l' = l ∧ r' ++ rest = rest := by simpa using same
  have : r' = [] := by simpa using tail
  rw [alone, this]

/-- What is found alone is found before a stopping text. -/
theorem StopsAt.before_rest (h : s.StopsAt stop) {l rest : List Char} (hrest : stop rest = true)
    (alone : s l = some (l, [])) : s (l ++ rest) = some (l, rest) := by
  simp [h l rest hrest, alone]

/-- A scanner fails before one stopping text exactly if it fails before the other. -/
theorem StopsAt.none_iff (h : s.StopsAt stop) {cs rest other : List Char}
    (hrest : stop rest = true) (hother : stop other = true) :
    s (cs ++ rest) = none ↔ s (cs ++ other) = none := by
  simp [h cs rest hrest, h cs other hother]

/-- Stopping at more texts is more than stopping at fewer. -/
theorem StopsAt.mono {fewer : List Char → Bool} (h : s.StopsAt stop)
    (sub : ∀ cs, fewer cs = true → stop cs = true) : s.StopsAt fewer :=
  fun cs rest hrest => h cs rest (sub rest hrest)

theorem takeWhile_append_stop (outside : Outside p stop) {rest : List Char}
    (hrest : stop rest = true) (cs : List Char) :
    (cs ++ rest).takeWhile p = cs.takeWhile p ∧
      (cs ++ rest).dropWhile p = cs.dropWhile p ++ rest := by
  induction cs with
  | nil =>
    cases rest with
    | nil => simp
    | cons c rest => simp [outside c rest hrest]
  | cons c cs ih => by_cases h : p c = true <;> simp [h, ih]

theorem one_stopsAt (outside : Outside p stop) : (one p).StopsAt stop := by
  intro cs rest hrest
  cases cs with
  | nil =>
    cases rest with
    | nil => simp [one]
    | cons c rest => simp [one, outside c rest hrest]
  | cons c cs => by_cases h : p c = true <;> simp [one, h]

theorem many_stopsAt (outside : Outside p stop) : (many p).StopsAt stop := by
  intro cs rest hrest
  simp [many, takeWhile_append_stop outside hrest cs]

theorem StopsAt.seq (hs : s.StopsAt stop) (ht : t.StopsAt stop) : (s.seq t).StopsAt stop := by
  intro cs rest hrest
  simp only [Scanner.seq, hs cs rest hrest]
  cases s cs with
  | none => rfl
  | some found =>
    obtain ⟨l, m⟩ := found
    simp only [Option.map_some, ht m rest hrest]
    cases t m <;> rfl

theorem StopsAt.orElse (hs : s.StopsAt stop) (ht : t.StopsAt stop) :
    (s.orElse t).StopsAt stop := by
  intro cs rest hrest
  simp only [Scanner.orElse, hs cs rest hrest, ht cs rest hrest]
  cases s cs <;> rfl

theorem StopsAt.optional (hs : s.StopsAt stop) : s.optional.StopsAt stop :=
  hs.orElse fun _ _ _ => rfl

theorem many1_stopsAt (outside : Outside p stop) : (many1 p).StopsAt stop :=
  (one_stopsAt outside).seq (many_stopsAt outside)

theorem word_stopsAt {same : Char → Char → Bool} {letters : List Char}
    (outside : ∀ letter ∈ letters, Outside (same letter) stop) :
    (word same letters).StopsAt stop := by
  induction letters with
  | nil => intro cs rest _; rfl
  | cons letter letters ih =>
    have tail := ih fun other member => outside other (List.mem_cons_of_mem _ member)
    exact (one_stopsAt (outside letter List.mem_cons_self)).seq tail

theorem StopsAt.before {follow : List Char → Bool} (hs : s.StopsAt stop)
    (same : ∀ cs rest, stop rest = true → follow (cs ++ rest) = follow cs) :
    (s.before follow).StopsAt stop := by
  intro cs rest hrest
  simp only [Scanner.before, hs cs rest hrest]
  cases s cs with
  | none => rfl
  | some found =>
    simp only [Option.map_some, same found.2 rest hrest]
    cases follow found.2 <;> rfl

theorem StopsAt.only {start : List Char → Bool} (hs : s.StopsAt stop)
    (same : ∀ cs rest, stop rest = true → start (cs ++ rest) = start cs) :
    (s.only start).StopsAt stop := by
  intro cs rest hrest
  simp only [Scanner.only, same cs rest hrest]
  cases start cs
  · rfl
  · exact hs cs rest hrest

/-! ## Scanners with a fixed end -/

/-- A scanner whose lexemes do not depend on what follows them. -/
def Closed (s : Scanner) : Prop :=
  ∀ l rest other, s (l ++ rest) = some (l, rest) → s (l ++ other) = some (l, other)

theorem one_eq_some {cs l rest : List Char} :
    one p cs = some (l, rest) ↔ ∃ c, l = [c] ∧ p c = true ∧ cs = c :: rest := by
  cases cs with
  | nil => simp [one]
  | cons c cs =>
    by_cases h : p c = true
    · simp only [one, h, if_true, Option.some.injEq, Prod.mk.injEq]
      constructor
      · rintro ⟨rfl, rfl⟩; exact ⟨c, rfl, h, rfl⟩
      · rintro ⟨d, rfl, -, same⟩; cases same; exact ⟨rfl, rfl⟩
    · simp only [one, h, Bool.false_eq_true, if_false, reduceCtorEq, false_iff]
      rintro ⟨d, -, holds, same⟩
      cases same
      exact h holds

theorem one_closed (p : Char → Bool) : (one p).Closed := by
  intro l rest other h
  obtain ⟨c, rfl, holds, -⟩ := one_eq_some.1 h
  exact one_eq_some.2 ⟨c, rfl, holds, rfl⟩

/-- Characters of a class up to the first one of another class. -/
theorem many_seq_one_eq_some (apart : ∀ c, q c = true → p c = false) {cs l rest : List Char} :
    (many p).seq (one q) cs = some (l, rest) ↔
      ∃ w c, l = w ++ [c] ∧ (∀ x ∈ w, p x = true) ∧ q c = true ∧ cs = l ++ rest := by
  constructor
  · intro h
    have split := (many_sound p).seq (one_proper q).sound _ _ _ h
    obtain ⟨w, l₂, m, first, second, rfl⟩ := seq_eq_some.1 h
    obtain ⟨c, rfl, holds, -⟩ := one_eq_some.1 second
    obtain ⟨rfl, -⟩ : cs.takeWhile p = w ∧ cs.dropWhile p = m := by simpa [many] using first
    exact ⟨_, c, rfl, List.all_eq_true.1 List.all_takeWhile, holds, split⟩
  · rintro ⟨w, c, rfl, inside, holds, rfl⟩
    refine seq_eq_some.2 ⟨w, [c], c :: rest, ?_, one_eq_some.2 ⟨c, rfl, holds, rfl⟩, rfl⟩
    simp [many, List.takeWhile_append_of_pos inside, List.dropWhile_append_of_pos inside,
      apart c holds]

end Scanner

end CommandLine.Text
