import CommandLine.Text.Quoted
import Mathlib.Algebra.Group.Nat.Defs

/-!
# Quoted texts are read back

A quoted text tells where it ends and what it says, whatever stands behind it, and it keeps to one
line. Every escape does: which of its three forms it has is seen at its first two characters.
-/

namespace CommandLine.Text

/-! ## Hexadecimal digits -/

theorem hexDigit_injective :
    ∀ m, m < 16 → ∀ n, n < 16 → hexDigit m = hexDigit n → m = n := by decide

theorem hexDigit_ne_newline : ∀ n, n < 16 → hexDigit n ≠ '\n' := by decide

theorem length_hexDigits (width n : Nat) : (hexDigits width n).length = width := by
  induction width generalizing n with
  | zero => rfl
  | succ width ih => simp [hexDigits, ih]

theorem hexDigits_injective {width m n : Nat} (hm : m < 16 ^ width) (hn : n < 16 ^ width)
    (same : hexDigits width m = hexDigits width n) : m = n := by
  induction width generalizing m n with
  | zero => omega
  | succ width ih =>
    obtain ⟨leading, last⟩ := List.append_inj' same rfl
    have : m / 16 = n / 16 := ih (by omega) (by omega) leading
    have : m % 16 = n % 16 :=
      hexDigit_injective _ (by omega) _ (by omega) (List.singleton_inj.1 last)
    omega

theorem newline_not_mem_hexDigits (width n : Nat) : '\n' ∉ hexDigits width n := by
  induction width generalizing n with
  | zero => simp [hexDigits]
  | succ width ih =>
    simp only [hexDigits, List.mem_append, List.mem_singleton, not_or]
    exact ⟨ih _, (hexDigit_ne_newline _ (by omega)).symm⟩

/-! ## Escapes -/

/-- The letters behind the backslash of a short escape, with what they stand for. -/
def shortEscapes (mark : Char) : List (Char × Char) :=
  [(mark, mark), ('\\', '\\'), ('n', '\n'), ('r', '\r'), ('t', '\t')]

/-- The letters behind the backslash of a numeric escape, with the digits that follow. -/
def numericEscapes : List (Char × Nat) := [('x', 2), ('u', 4), ('U', 8)]

/-- The forms in which a character stands between quotes. -/
inductive Escapes (mark : Char) (c : Char) : List Char → Prop where
  | plain (unmarked : c ≠ mark) (notBackslash : c ≠ '\\') (notNewline : c ≠ '\n') :
      Escapes mark c [c]
  | short {letter : Char} (known : (letter, c) ∈ shortEscapes mark) :
      Escapes mark c ['\\', letter]
  | numeric {letter : Char} {width : Nat} (known : (letter, width) ∈ numericEscapes)
      (fits : c.toNat < 16 ^ width) : Escapes mark c ('\\' :: letter :: hexDigits width c.toNat)

theorem escapes_numericEscape (mark c : Char) : Escapes mark c (numericEscape c) := by
  have valid : c.toNat < 16 ^ 8 := c.val.toNat_lt
  simp only [numericEscape]
  split
  · exact .numeric (by simp [numericEscapes]) (by omega)
  · split
    · exact .numeric (by simp [numericEscapes]) (by omega)
    · exact .numeric (by simp [numericEscapes]) valid

theorem escapes_escape (mark c : Char) : Escapes mark c (escape mark c) := by
  unfold escape
  split
  · next same => exact .short (by simp [shortEscapes, same])
  · next unmarked =>
    split
    · next same => exact .short (by simp [shortEscapes, same])
    · next notBackslash =>
      split
      · next same => exact .short (by simp [shortEscapes, same])
      · next notNewline =>
        split
        · next same => exact .short (by simp [shortEscapes, same])
        · split
          · next same => exact .short (by simp [shortEscapes, same])
          · split
            · exact .plain unmarked notBackslash notNewline
            · exact escapes_numericEscape mark c

namespace Escapes

variable {mark c d : Char} {l m r s : List Char}

/-- No escape begins with the mark, so the mark that ends a quoted text is not taken for one. -/
theorem ne_mark_cons (isMark : mark = '\'' ∨ mark = '"') (h : Escapes mark c l) :
    l ++ r ≠ mark :: s := by
  cases h with
  | plain unmarked => simpa using fun same => absurd same unmarked
  | short | numeric => rcases isMark with rfl | rfl <;> simp

theorem letter_unique (isMark : mark = '\'' ∨ mark = '"') {letter : Char}
    (hc : (letter, c) ∈ shortEscapes mark) (hd : (letter, d) ∈ shortEscapes mark) : c = d := by
  rcases isMark with rfl | rfl <;>
    simp only [shortEscapes, List.mem_cons, Prod.mk.injEq, List.not_mem_nil, or_false] at hc hd <;>
    grind

theorem letter_ne (isMark : mark = '\'' ∨ mark = '"') {letter : Char} {width : Nat}
    (hc : (letter, c) ∈ shortEscapes mark) : (letter, width) ∉ numericEscapes := by
  rcases isMark with rfl | rfl <;>
    simp only [shortEscapes, numericEscapes, List.mem_cons, Prod.mk.injEq, List.not_mem_nil,
      or_false] at hc ⊢ <;>
    grind

theorem width_unique {letter : Char} {v w : Nat} (hv : (letter, v) ∈ numericEscapes)
    (hw : (letter, w) ∈ numericEscapes) : v = w := by
  simp only [numericEscapes, List.mem_cons, Prod.mk.injEq, List.not_mem_nil, or_false] at hv hw
  grind

/-- What begins with an escape begins with no other one. -/
theorem unique (isMark : mark = '\'' ∨ mark = '"') (hc : Escapes mark c l) (hd : Escapes mark d m)
    (same : l ++ r = m ++ s) : c = d ∧ r = s := by
  cases hc with
  | plain _ notBackslash =>
    cases hd with
    | plain => simpa using same
    | short | numeric => exact absurd (List.cons.inj same).1 notBackslash
  | short known =>
    cases hd with
    | plain _ notBackslash => exact absurd (List.cons.inj same).1.symm notBackslash
    | short known' =>
      obtain ⟨rfl, rfl⟩ : _ ∧ r = s := by simpa using same
      exact ⟨letter_unique isMark known known', rfl⟩
    | numeric known' =>
      obtain ⟨rfl, -⟩ := List.cons.inj (List.cons.inj same).2
      exact absurd known' (letter_ne isMark known)
  | numeric known fits =>
    cases hd with
    | plain _ notBackslash => exact absurd (List.cons.inj same).1.symm notBackslash
    | short known' =>
      obtain ⟨rfl, -⟩ := List.cons.inj (List.cons.inj same).2
      exact absurd known (letter_ne isMark known')
    | numeric known' fits' =>
      obtain ⟨rfl, digits⟩ := List.cons.inj (List.cons.inj same).2
      obtain rfl := width_unique known known'
      obtain ⟨digits, rest⟩ := List.append_inj digits (by simp [length_hexDigits])
      exact ⟨Char.toNat_inj.1 (hexDigits_injective fits fits' digits), rest⟩

theorem newline_not_mem (isMark : mark = '\'' ∨ mark = '"') (h : Escapes mark c l) : '\n' ∉ l := by
  cases h with
  | plain _ _ notNewline => simpa using notNewline.symm
  | short known =>
    rcases isMark with rfl | rfl <;> simp [shortEscapes] at known ⊢ <;> grind
  | @numeric letter width known =>
    simp only [List.mem_cons, not_or]
    refine ⟨by decide, ?_, newline_not_mem_hexDigits _ _⟩
    simp [numericEscapes] at known
    grind

end Escapes

/-! ## Other texts on one line -/

theorem newline_not_mem_toDigits (n : Nat) : '\n' ∉ Nat.toDigits 10 n := by
  intro mem
  have digit : '\n'.isDigit = true := Nat.isDigit_of_mem_toDigits (by omega) (by omega) mem
  cases digit

theorem newline_not_mem_intercalate {separator : String} {texts : List String}
    (apart : '\n' ∉ separator.toList) (each : ∀ text ∈ texts, '\n' ∉ text.toList) :
    '\n' ∉ (separator.intercalate texts).toList := by
  rw [String.toList_intercalate]
  induction texts with
  | nil => simp [List.intercalate]
  | cons text rest ih =>
    obtain ⟨first, others⟩ := List.forall_mem_cons.1 each
    cases rest with
    | nil => simpa [List.intercalate] using first
    | cons next rest =>
      have tail := ih others
      rw [List.map_cons] at tail
      rw [List.map_cons, List.map_cons, List.intercalate_cons_cons]
      simp [first, apart, tail]

/-! ## Quoted texts -/

theorem quoteMark_eq (cs : List Char) : quoteMark cs = '\'' ∨ quoteMark cs = '"' := by
  unfold quoteMark
  split
  · exact .inr rfl
  · exact .inl rfl

theorem escaped_append_inj {mark : Char} (isMark : mark = '\'' ∨ mark = '"')
    {cs ds r s : List Char}
    (same : cs.flatMap (escape mark) ++ mark :: r = ds.flatMap (escape mark) ++ mark :: s) :
    cs = ds ∧ r = s := by
  induction cs generalizing ds with
  | nil =>
    cases ds with
    | nil => simpa using same
    | cons d ds =>
      rw [List.flatMap_cons, List.append_assoc] at same
      exact absurd same.symm ((escapes_escape mark d).ne_mark_cons isMark)
  | cons c cs ih =>
    rw [List.flatMap_cons, List.append_assoc] at same
    cases ds with
    | nil => exact absurd same ((escapes_escape mark c).ne_mark_cons isMark)
    | cons d ds =>
      rw [List.flatMap_cons, List.append_assoc] at same
      obtain ⟨rfl, tail⟩ := (escapes_escape mark c).unique isMark (escapes_escape mark d) same
      obtain ⟨rfl, rfl⟩ := ih tail
      exact ⟨rfl, rfl⟩

/-- What begins with a quoted text begins with no other one. -/
theorem quoteChars_append_inj {cs ds r s : List Char}
    (same : quoteChars cs ++ r = quoteChars ds ++ s) : cs = ds ∧ r = s := by
  simp only [quoteChars, List.cons_append, List.append_assoc, List.nil_append,
    List.cons.injEq] at same
  obtain ⟨mark, same⟩ := same
  rw [← mark] at same
  exact escaped_append_inj (quoteMark_eq cs) same

theorem newline_not_mem_quoteChars (cs : List Char) : '\n' ∉ quoteChars cs := by
  have isMark := quoteMark_eq cs
  have mark : '\n' ≠ quoteMark cs := by rcases isMark with h | h <;> simp [h]
  simp only [quoteChars, List.mem_append, List.mem_cons, List.mem_flatMap, List.not_mem_nil,
    or_false, not_or, not_exists, not_and]
  exact ⟨⟨mark, fun c _ => (escapes_escape _ c).newline_not_mem isMark⟩, mark⟩

theorem newline_not_mem_quote (s : String) : '\n' ∉ (quote s).toList := by
  simpa [quote] using newline_not_mem_quoteChars s.toList

end CommandLine.Text
