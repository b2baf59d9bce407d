import CommandLine.Text.Character

/-!
# Scanners

A scanner cuts a lexeme off the front of a text, or fails. Every scanner below is *sound*: lexeme
and remainder together are the text. A *proper* one never cuts off an empty lexeme, so a loop that
scans again and again comes to an end.
-/

namespace CommandLine.Text

/-- Splits a text into a lexeme and what follows it. -/
abbrev Scanner := List Char → Option (List Char × List Char)

namespace Scanner

/-- Lexeme and remainder are the text. -/
def Sound (s : Scanner) : Prop := ∀ cs l r, s cs = some (l, r) → cs = l ++ r

/-- Sound, and no lexeme is empty. -/
def Proper (s : Scanner) : Prop := ∀ cs l r, s cs = some (l, r) → cs = l ++ r ∧ l ≠ []

theorem Proper.sound {s : Scanner} (h : s.Proper) : s.Sound := fun cs l r e => (h cs l r e).1

/-- One character of a class. -/
def one (p : Char → Bool) : Scanner
  | c :: cs => if p c then some ([c], cs) else none
  | [] => none

/-- As many characters of a class as there are. -/
def many (p : Char → Bool) : Scanner := fun cs => some (cs.takeWhile p, cs.dropWhile p)

/-- One scanner after the other. -/
def seq (s t : Scanner) : Scanner := fun cs =>
  match s cs with
  | none => none
  | some (l, r) =>
    match t r with
    | none => none
    | some (l', r') => some (l ++ l', r')

/-- The second scanner where the first one fails. -/
def orElse (s t : Scanner) : Scanner := fun cs =>
  match s cs with
  | some found => some found
  | none => t cs

/-- The scanner's lexeme, or an empty one where it fails. -/
def optional (s : Scanner) : Scanner := s.orElse fun cs => some ([], cs)

/-- Only lexemes whose remainder satisfies a condition. -/
def before (s : Scanner) (follow : List Char → Bool) : Scanner := fun cs =>
  match s cs with
  | some (l, r) => if follow r then some (l, r) else none
  | none => none

/-- Only texts that satisfy a condition. -/
def only (start : List Char → Bool) (s : Scanner) : Scanner := fun cs =>
  if start cs then s cs else none

/-- At least one character of a class. -/
def many1 (p : Char → Bool) : Scanner := (one p).seq (many p)

/-- The characters of a word, each recognised by a comparison of its own. -/
def word (same : Char → Char → Bool) : List Char → Scanner
  | [], cs => some ([], cs)
  | w :: ws, cs => (one (same w)).seq (word same ws) cs

theorem one_proper (p : Char → Bool) : (one p).Proper := by
  intro cs l r h
  cases cs with
  | nil => simp [one] at h
  | cons c cs =>
    simp only [one] at h
    split at h
    · obtain ⟨rfl, rfl⟩ : [c] = l ∧ cs = r := by simpa using h
      simp
    · simp at h

theorem many_sound (p : Char → Bool) : (many p).Sound := by
  intro cs l r h
  obtain ⟨rfl, rfl⟩ : cs.takeWhile p = l ∧ cs.dropWhile p = r := by simpa [many] using h
  simp

theorem seq_eq_some {s t : Scanner} {cs l r : List Char} :
    s.seq t cs = some (l, r) ↔
      ∃ l₁ l₂ m, s cs = some (l₁, m) ∧ t m = some (l₂, r) ∧ l = l₁ ++ l₂ := by
  unfold seq
  constructor
  · intro h
    split at h
    · simp at h
    · next l₁ m hs =>
      split at h
      · simp at h
      · next l₂ r' ht =>
        obtain ⟨rfl, rfl⟩ : l₁ ++ l₂ = l ∧ r' = r := by simpa using h
        exact ⟨l₁, l₂, m, hs, ht, rfl⟩
  · rintro ⟨l₁, l₂, m, hs, ht, rfl⟩
    simp [hs, ht]

theorem Sound.seq {s t : Scanner} (hs : s.Sound) (ht : t.Sound) : (s.seq t).Sound := by
  intro cs l r h
  obtain ⟨l₁, l₂, m, h₁, h₂, rfl⟩ := seq_eq_some.1 h
  rw [hs _ _ _ h₁, ht _ _ _ h₂, List.append_assoc]

theorem Proper.seq_left {s t : Scanner} (hs : s.Proper) (ht : t.Sound) : (s.seq t).Proper := by
  intro cs l r h
  refine ⟨hs.sound.seq ht cs l r h, ?_⟩
  obtain ⟨l₁, l₂, m, h₁, h₂, rfl⟩ := seq_eq_some.1 h
  simp [(hs _ _ _ h₁).2]

theorem Proper.seq_right {s t : Scanner} (hs : s.Sound) (ht : t.Proper) : (s.seq t).Proper := by
  intro cs l r h
  refine ⟨hs.seq ht.sound cs l r h, ?_⟩
  obtain ⟨l₁, l₂, m, h₁, h₂, rfl⟩ := seq_eq_some.1 h
  simp [(ht _ _ _ h₂).2]

theorem Sound.orElse {s t : Scanner} (hs : s.Sound) (ht : t.Sound) : (s.orElse t).Sound := by
  intro cs l r h
  unfold Scanner.orElse at h
  split at h
  · next found e => exact hs _ _ _ (e.trans h)
  · exact ht _ _ _ h

theorem Proper.orElse {s t : Scanner} (hs : s.Proper) (ht : t.Proper) : (s.orElse t).Proper := by
  intro cs l r h
  unfold Scanner.orElse at h
  split at h
  · next found e => exact hs _ _ _ (e.trans h)
  · exact ht _ _ _ h

theorem Sound.optional {s : Scanner} (hs : s.Sound) : s.optional.Sound :=
  hs.orElse fun cs l r h => by
    obtain ⟨rfl, rfl⟩ : [] = l ∧ cs = r := by simpa using h
    rfl

theorem before_eq_some {s : Scanner} {follow : List Char → Bool} {cs l r : List Char} :
    s.before follow cs = some (l, r) ↔ s cs = some (l, r) ∧ follow r = true := by
  unfold before
  cases h : s cs with
  | none => simp
  | some found =>
    obtain ⟨l', r'⟩ := found
    by_cases f : follow r' = true
    · simp only [f, if_true, Option.some.injEq, Prod.mk.injEq]
      constructor
      · rintro ⟨rfl, rfl⟩; exact ⟨⟨rfl, rfl⟩, f⟩
      · exact fun e => e.1
    · simp only [f, Bool.false_eq_true, if_false, Option.some.injEq, Prod.mk.injEq, reduceCtorEq,
        false_iff]
      rintro ⟨⟨rfl, rfl⟩, g⟩
      exact f g

theorem Proper.before {s : Scanner} (hs : s.Proper) (follow : List Char → Bool) :
    (s.before follow).Proper := fun cs l r h => hs cs l r (before_eq_some.1 h).1

theorem Proper.only {s : Scanner} (hs : s.Proper) (start : List Char → Bool) :
    (s.only start).Proper := by
  intro cs l r h
  unfold Scanner.only at h
  split at h
  · exact hs cs l r h
  · simp at h

theorem many1_proper (p : Char → Bool) : (many1 p).Proper := (one_proper p).seq_left (many_sound p)

theorem word_sound (same : Char → Char → Bool) (w : List Char) : (word same w).Sound := by
  induction w with
  | nil =>
    intro cs l r h
    obtain ⟨rfl, rfl⟩ : [] = l ∧ cs = r := by simpa [word] using h
    rfl
  | cons c ws ih => exact (one_proper _).sound.seq ih

theorem word_proper (same : Char → Char → Bool) {w : List Char} (h : w ≠ []) :
    (word same w).Proper := by
  cases w with
  | nil => exact absurd rfl h
  | cons c ws => exact (one_proper _).seq_left (word_sound same ws)

end Scanner

end CommandLine.Text
