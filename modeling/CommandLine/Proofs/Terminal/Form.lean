import CommandLine.Proofs.Terminal.Spelling
import Mathlib.Data.List.Forall2
import Mathlib.Data.List.TakeWhile

/-!
# The forms of words

A word holds no blank, quote, bracket or comma, so no lexeme ends inside it. A terminal of a value
reads all of a word or nothing: a bareword reads it unless it begins with a dash, and every other
terminal reads the words of its form (`Terminal.scan_word_iff`). No word has two forms
(`Scalar.HasForm.unique`).
-/

namespace CommandLine
open CommandLine.Text CommandLine.Text.Scanner CommandLine.Numeral

/-- A whole text has the form of a range, of a range without its first bound, of a truth value in
whatever case, of a fractional number, or of an integer. -/
def Scalar.HasForm : Scalar → List Char → Prop
  | range, cs =>
    ∃ low high, cs = low ++ '.' :: '.' :: high ∧ IsLiteral low ∧ IsLiteral high
  | rangeTo, cs => ∃ beyond, cs = '.' :: '.' :: beyond ∧ IsLiteral beyond
  | bool, cs =>
    List.Forall₂ (fun letter c => Terminal.sameLetter letter c = true) ['t', 'r', 'u', 'e'] cs ∨
      List.Forall₂ (fun letter c => Terminal.sameLetter letter c = true)
        ['f', 'a', 'l', 's', 'e'] cs
  | float, cs =>
    ∃ whole point power, cs = whole ++ (point ++ power) ∧ IsLiteral whole ∧
      Terminal.IsPoint point ∧ Terminal.IsExponent power ∧ point ++ power ≠ []
  | int, cs => IsLiteral cs
  | _, _ => False

/-- A text without blanks, quotes, brackets and commas. -/
def IsWord (cs : List Char) : Prop :=
  ∀ c ∈ cs, isBlank c = false ∧ c ≠ '"' ∧ c ≠ '[' ∧ c ≠ ']' ∧ c ≠ ','

instance (cs : List Char) : Decidable (IsWord cs) :=
  decidable_of_iff
    ((cs.all fun c => !isBlank c && c != '"' && c != '[' && c != ']' && c != ',') = true)
    (by simp [IsWord, and_assoc])

namespace Terminal

variable {cs l rest w : List Char} {form : Scalar}

/-! ## What has the form is scanned -/

theorem word_eq_some {same : Char → Char → Bool} {letters : List Char} :
    word same letters cs = some (l, rest) ↔
      List.Forall₂ (fun letter c => same letter c = true) letters l ∧ cs = l ++ rest := by
  induction letters generalizing cs l with
  | nil =>
    rw [word, List.forall₂_nil_left_iff]
    constructor
    · intro h
      obtain ⟨rfl, rfl⟩ : [] = l ∧ cs = rest := by simpa using h
      exact ⟨rfl, rfl⟩
    · rintro ⟨rfl, rfl⟩
      rfl
  | cons letter letters ih =>
    rw [word, seq_eq_some, List.forall₂_cons_left_iff]
    constructor
    · rintro ⟨_, tail, m, first, others, rfl⟩
      obtain ⟨c, rfl, alike, rfl⟩ := one_eq_some.1 first
      obtain ⟨each, rfl⟩ := ih.1 others
      exact ⟨⟨c, tail, alike, each, rfl⟩, rfl⟩
    · rintro ⟨⟨c, tail, alike, each, rfl⟩, rfl⟩
      exact ⟨[c], tail, tail ++ rest, one_eq_some.2 ⟨c, rfl, alike, rfl⟩, ih.2 ⟨each, rfl⟩, rfl⟩

theorem dots_append (rest : List Char) : dots ('.' :: '.' :: rest) = some (['.', '.'], rest) := rfl

theorem exponent_head {power : List Char} (powered : IsExponent power) :
    ∀ c ∈ power.head?, isAsciiDigit c = false := by
  rcases powered with rfl | ⟨mark, ds, rfl, marks, -⟩
  · simp
  · intro c here
    obtain rfl : mark = c := by simpa using here
    cases digit : isAsciiDigit mark with
    | false => rfl
    | true => simp [isMark_of_isAsciiDigit digit] at marks

theorem fraction_head {point power : List Char} (pointed : IsPoint point)
    (powered : IsExponent power) : ∀ c ∈ (point ++ power).head?, isAsciiDigit c = false := by
  rcases pointed with rfl | ⟨ds, rfl, -⟩
  · exact exponent_head powered
  · simp
    rfl

theorem exponent_complete {power : List Char} (powered : IsExponent power) (more : power ≠ []) :
    exponent power = some (power, []) := by
  rcases powered with rfl | ⟨mark, ds, rfl, marks, digits⟩
  · exact absurd rfl more
  have marked : (mark == 'e' || mark == 'E') = true := marks
  have counted (ds : List Char) (h : IsDigits ds) : Terminal.digits ds = some (ds, []) := by
    simpa using @digits_append ds [] h (by simp)
  unfold splitSign at digits
  split at digits
  · next ds => simp [exponent, seq, one, marked, Scanner.optional, orElse, counted ds digits]
  · next ds => simp [exponent, seq, one, marked, Scanner.optional, orElse, counted ds digits]
  · next unsigned unsigned' =>
    obtain ⟨c, ds, rfl⟩ := List.exists_cons_of_ne_nil digits.1
    have digit := digits.2 c List.mem_cons_self
    have minus : c ≠ '-' := ne_of_isAsciiDigit digit rfl
    have plus : c ≠ '+' := ne_of_isAsciiDigit digit rfl
    simp [exponent, seq, one, marked, Scanner.optional, orElse, plus, minus, counted _ digits]

theorem fraction_complete {point power : List Char} (pointed : IsPoint point)
    (powered : IsExponent power) (more : point ++ power ≠ []) :
    fraction (point ++ power) = some (point ++ power, []) := by
  rcases pointed with rfl | ⟨ds, rfl, digits⟩
  · have exponent := exponent_complete powered more
    rcases powered with rfl | ⟨mark, ds, rfl, marks, -⟩
    · exact absurd rfl more
    have dot : mark ≠ '.' := by
      rintro rfl
      cases marks
    rw [List.nil_append, fraction, orElse, exponent]
    simp [seq, one, dot]
  · have counted := digits_append digits (exponent_head powered)
    by_cases ends : power = []
    · subst ends
      rw [List.append_nil] at counted
      simp [fraction, orElse, seq, one, counted, Scanner.optional, exponent]
    · simp [fraction, orElse, seq, one, counted, Scanner.optional, exponent_complete powered ends]

/-- What has the form of a value is a lexeme of that value. -/
theorem body_complete (h : form.HasForm cs) : (scalar form).body cs = some (cs, []) := by
  cases form with
  | range =>
    obtain ⟨low, high, rfl, first, second⟩ := h
    have before : integer (low ++ '.' :: '.' :: high) = some (low, '.' :: '.' :: high) :=
      integer_append first (by simp; rfl)
    have behind : integer high = some (high, []) := by
      simpa using @integer_append high [] second (by simp)
    simp [Terminal.body, seq, before, dots_append, behind]
  | rangeTo =>
    obtain ⟨beyond, rfl, literal⟩ := h
    have behind : integer beyond = some (beyond, []) := by
      simpa using @integer_append beyond [] literal (by simp)
    simp [Terminal.body, seq, dots_append, behind]
  | bool =>
    rcases h with yes | no
    · have found : word sameLetter ['t', 'r', 'u', 'e'] cs = some (cs, []) :=
        word_eq_some.2 ⟨yes, (List.append_nil cs).symm⟩
      simp [Terminal.body, orElse, found]
    · have found : word sameLetter ['f', 'a', 'l', 's', 'e'] cs = some (cs, []) :=
        word_eq_some.2 ⟨no, (List.append_nil cs).symm⟩
      obtain ⟨c, tail, alike, -, rfl⟩ := List.forall₂_cons_left_iff.1 no
      have lower : c.toLower = 'f' := by simpa [sameLetter] using alike
      have other : word sameLetter ['t', 'r', 'u', 'e'] (c :: tail) = none := by
        simp [word, seq, one, sameLetter, lower]
      simp [Terminal.body, orElse, other, found]
  | float =>
    obtain ⟨whole, point, power, rfl, literal, pointed, powered, more⟩ := h
    have before := integer_append literal (fraction_head pointed powered)
    simp [Terminal.body, seq, before, fraction_complete pointed powered more]
  | int =>
    have whole : integer cs = some (cs, []) := by
      simpa using @integer_append cs [] h (by simp)
    exact whole
  | quoted => exact absurd h id
  | bareword => exact absurd h id

/-! ## What is scanned has the form -/

theorem hasForm_of_body (h : (scalar form).body cs = some (l, rest)) (quoted : form ≠ .quoted)
    (bareword : form ≠ .bareword) : form.HasForm l := by
  cases form with
  | range => exact range_text h
  | rangeTo => exact rangeTo_text h
  | bool =>
    simp only [Terminal.body, orElse] at h
    split at h
    · next found => exact .inl (word_eq_some.1 (found.trans h)).1
    · exact .inr (word_eq_some.1 h).1
  | float =>
    obtain ⟨whole, tail, m, first, second, rfl⟩ := seq_eq_some.1 h
    obtain ⟨point, power, rfl, pointed, powered⟩ := fraction_text second
    exact ⟨whole, point, power, rfl, isLiteral_of_integer first, pointed, powered,
      (fraction_proper _ _ _ second).2⟩
  | int => exact isLiteral_of_integer h
  | quoted => exact absurd rfl quoted
  | bareword => exact absurd rfl bareword

/-- A value may end in a word only at its end. -/
theorem eq_nil_of_endsValue (word : IsWord (l ++ rest)) (ends : endsValue rest = true) :
    rest = [] := by
  cases rest with
  | nil => rfl
  | cons c rest =>
    obtain ⟨visible, -, -, bracket, comma⟩ := word c (by simp)
    simp [endsValue, visible, bracket, comma] at ends

theorem isBareStart_of_word (word : IsWord w) {c : Char} (member : c ∈ w) (dash : c ≠ '-') :
    isBareStart c = true := by
  obtain ⟨visible, quote, opening, closing, comma⟩ := word c member
  simp [isBareStart, isBare, visible, quote, opening, closing, comma, dash]

theorem isBare_of_word (word : IsWord w) {c : Char} (member : c ∈ w) : isBare c = true := by
  obtain ⟨visible, -, opening, closing, comma⟩ := word c member
  simp [isBare, visible, opening, closing, comma]

/-- A terminal of a value reads all of a word or nothing. -/
theorem scan_word_iff (word : IsWord w) :
    (scalar form).scan w = some (l, rest) ↔ l = w ∧ rest = [] ∧
      (form.HasForm w ∨ form = .bareword ∧ w ≠ [] ∧ w.head? ≠ some '-') := by
  constructor
  · intro scanned
    obtain ⟨body, ends⟩ := before_eq_some.1 scanned
    obtain ⟨split, nonempty⟩ := body_proper _ _ _ _ body
    have whole : rest = [] := eq_nil_of_endsValue (split ▸ word) ends
    subst whole
    rw [List.append_nil] at split
    subst split
    refine ⟨rfl, rfl, ?_⟩
    by_cases bareword : form = .bareword
    · subst bareword
      have started : (one isBareStart).seq (many isBare) w = some (w, []) := body
      obtain ⟨_, _, _, first, -, same⟩ := seq_eq_some.1 started
      obtain ⟨c, rfl, start, tail⟩ := one_eq_some.1 first
      have dash : c ≠ '-' := by
        rintro rfl
        cases start
      exact .inr ⟨rfl, nonempty, by simp [tail, dash]⟩
    · refine .inl (hasForm_of_body body ?_ bareword)
      rintro rfl
      obtain ⟨inside, same, -⟩ := quoted_body_eq_some.1 body
      exact (word '"' (by simp [same])).2.1 rfl
  · rintro ⟨rfl, rfl, formed | ⟨rfl, nonempty, noDash⟩⟩
    · exact before_eq_some.2 ⟨body_complete formed, rfl⟩
    · obtain ⟨c, tail, rfl⟩ := List.exists_cons_of_ne_nil nonempty
      have start := isBareStart_of_word word List.mem_cons_self (by simpa using noDash)
      have bare : ∀ d ∈ tail, isBare d = true := fun d member =>
        isBare_of_word word (List.mem_cons_of_mem c member)
      have body : (scalar .bareword).body (c :: tail) = some (c :: tail, []) := by
        simp [Terminal.body, seq, one, start, many, List.takeWhile_eq_self_iff.2 bare,
          List.dropWhile_eq_nil_iff.2 bare]
      exact before_eq_some.2 ⟨body, rfl⟩

end Terminal

namespace Scalar

variable {form other : Scalar} {cs : List Char}

/-! ## No text has two forms -/

/-- The only form that a text can have, told by what stands behind the integer that it begins
with, or by its first character if it does not begin with one. -/
def formOf (cs : List Char) : Scalar :=
  match Terminal.integer cs with
  | some (_, []) => int
  | some (_, '.' :: '.' :: _) => range
  | some _ => float
  | none => if cs.head? = some '.' then rangeTo else bool

/-- A truth value begins with a letter. -/
theorem HasForm.bool_head (h : bool.HasForm cs) :
    ∃ c tail, cs = c :: tail ∧ (c.toLower = 't' ∨ c.toLower = 'f') := by
  rcases h with yes | no
  · obtain ⟨c, tail, alike, -, rfl⟩ := List.forall₂_cons_left_iff.1 yes
    exact ⟨c, tail, rfl, .inl (by simpa [Terminal.sameLetter] using alike)⟩
  · obtain ⟨c, tail, alike, -, rfl⟩ := List.forall₂_cons_left_iff.1 no
    exact ⟨c, tail, rfl, .inr (by simpa [Terminal.sameLetter] using alike)⟩

theorem HasForm.formOf_eq (h : form.HasForm cs) : formOf cs = form := by
  cases form with
  | range =>
    obtain ⟨low, high, rfl, first, -⟩ := h
    rw [formOf, Terminal.integer_append first (by simp; rfl)]
    rfl
  | rangeTo =>
    obtain ⟨beyond, rfl, -⟩ := h
    rfl
  | bool =>
    obtain ⟨c, tail, rfl, letter⟩ := h.bool_head
    have digit : isAsciiDigit c = false := by
      cases digit : isAsciiDigit c with
      | false => rfl
      | true =>
        rw [Terminal.toLower_of_isAsciiDigit digit] at letter
        rcases letter with rfl | rfl <;> cases digit
    have apart {d : Char} (other : d.toLower ≠ 't' ∧ d.toLower ≠ 'f') : c ≠ d := by
      rintro rfl
      exact letter.elim other.1 other.2
    have dash : c ≠ '-' := apart (by decide)
    have dot : c ≠ '.' := apart (by decide)
    have none : Terminal.integer (c :: tail) = none := by
      simp [Terminal.integer, Terminal.digits, many1, seq, one, Scanner.optional, orElse, digit,
        dash]
    simp [formOf, none, dot]
  | float =>
    obtain ⟨whole, point, power, rfl, literal, pointed, powered, more⟩ := h
    rw [formOf, Terminal.integer_append literal (Terminal.fraction_head pointed powered)]
    rcases pointed with rfl | ⟨ds, rfl, digits⟩
    · rcases powered with rfl | ⟨mark, ds, rfl, marks, -⟩
      · exact absurd rfl more
      · have dot : mark ≠ '.' := by
          rintro rfl
          cases marks
        simp [dot]
    · obtain ⟨d, ds, rfl⟩ := List.exists_cons_of_ne_nil digits.1
      have dot : d ≠ '.' := ne_of_isAsciiDigit (digits.2 d List.mem_cons_self) rfl
      simp [dot]
  | int =>
    have whole : Terminal.integer cs = some (cs, []) := Terminal.body_complete h
    rw [formOf, whole]
  | quoted => exact absurd h id
  | bareword => exact absurd h id

theorem HasForm.unique (h : form.HasForm cs) (h' : other.HasForm cs) : form = other :=
  h.formOf_eq.symm.trans h'.formOf_eq

/-- A form that begins with a dash is that of a number or a range of numbers. -/
theorem HasForm.mem_of_dash {tail : List Char} (h : form.HasForm ('-' :: tail)) :
    form ∈ [Scalar.int, .float, .range] := by
  cases form with
  | range => decide
  | rangeTo =>
    obtain ⟨beyond, same, -⟩ := h
    cases same
  | bool =>
    obtain ⟨c, tail, same, letter⟩ := h.bool_head
    obtain ⟨rfl, -⟩ := List.cons.inj same
    exact absurd letter (by decide)
  | float => decide
  | int => decide
  | quoted => exact absurd h id
  | bareword => exact absurd h id

/-! ## Kinds of words -/

/-- The kind of a word: the form that its whole text has, and a bareword if it has none. -/
def IsKindOf (form : Scalar) (cs : List Char) : Prop :=
  form.HasForm cs ∨ form = .bareword ∧ ∀ other : Scalar, ¬ other.HasForm cs

theorem existsUnique_isKindOf (cs : List Char) : ∃! form : Scalar, form.IsKindOf cs := by
  by_cases formed : ∃ form : Scalar, form.HasForm cs
  · obtain ⟨form, has⟩ := formed
    refine ⟨form, .inl has, ?_⟩
    rintro other (has' | ⟨-, none⟩)
    · exact has'.unique has
    · exact absurd has (none form)
  · have none : ∀ other : Scalar, ¬ other.HasForm cs := not_exists.1 formed
    refine ⟨bareword, .inr ⟨rfl, none⟩, ?_⟩
    rintro other (has | ⟨same, -⟩)
    · exact absurd has (none other)
    · exact same

end Scalar

/-- A text that can be the word of a value: it begins with no dash, unless it is a number or a
range of numbers. -/
def IsValueWord (cs : List Char) : Prop :=
  cs ≠ [] ∧ (cs.head? ≠ some '-' ∨ ∃ form ∈ [Scalar.int, .float, .range], form.HasForm cs)

namespace Terminal

variable {w : List Char} {form : Scalar}

/-- A word that can be a value is read by the terminal of its kind, from its first character to
its last. -/
theorem scan_of_isKindOf (word : IsWord w) (value : IsValueWord w) (kind : form.IsKindOf w) :
    (scalar form).scan w = some (w, []) := by
  refine (scan_word_iff word).2 ⟨rfl, rfl, ?_⟩
  rcases kind with formed | ⟨bareword, none⟩
  · exact .inl formed
  · refine .inr ⟨bareword, value.1, ?_⟩
    rcases value.2 with noDash | ⟨form, -, formed⟩
    · exact noDash
    · exact absurd formed (none form)

/-- No other terminal of a value reads a word of some kind, unless it is that of barewords. -/
theorem scan_of_ne_kind {other : Scalar} (word : IsWord w) (kind : form.IsKindOf w)
    (apart : other ≠ form) (bareword : other ≠ .bareword) : (scalar other).scan w = none := by
  cases scanned : (scalar other).scan w with
  | none => rfl
  | some found =>
    obtain ⟨-, -, formed | ⟨same, -⟩⟩ := (scan_word_iff word).1 scanned
    · rcases kind with formed' | ⟨-, none⟩
      · exact absurd (formed.unique formed') apart
      · exact absurd formed (none other)
    · exact absurd same bareword

/-- No terminal of a value reads a word that cannot be a value. -/
theorem scan_of_not_isValueWord (word : IsWord w) (nonempty : w ≠ []) (h : ¬ IsValueWord w) :
    (scalar form).scan w = none := by
  cases scanned : (scalar form).scan w with
  | none => rfl
  | some found =>
    refine absurd ⟨nonempty, ?_⟩ h
    obtain ⟨-, -, formed | ⟨-, -, noDash⟩⟩ := (scan_word_iff word).1 scanned
    · by_cases dash : w.head? = some '-'
      · obtain ⟨tail, rfl⟩ := List.head?_eq_some_iff.1 dash
        exact .inr ⟨form, formed.mem_of_dash, formed⟩
      · exact .inl dash
    · exact .inl noDash

end Terminal

end CommandLine
