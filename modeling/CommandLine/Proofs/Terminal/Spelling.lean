import CommandLine.Proofs.Terminal.Number

/-!
# Texts of one token

Texts of which it is known as what token they are read: names with a colon, integers, ranges, truth
values and quoted strings.
-/

namespace CommandLine.Terminal
open CommandLine.Text CommandLine.Text.Scanner CommandLine.Numeral

/-- A text that is read as one token of a terminal when all terminals are tried. -/
def Reads (t : Terminal) (text : List Char) : Prop :=
  Item.firstScan byPriority text = some (t, text, [])

theorem cut_byPriority (t : Terminal) :
    ∃ earlier later, byPriority = earlier ++ t :: later ∧ ∀ u ∈ earlier, Before u t := by
  refine ⟨byPriority.takeWhile (· ≠ t), (byPriority.dropWhile (· ≠ t)).drop 1, ?_⟩
  cases t with
  | scalar form => cases form <;> decide
  | _ => decide

/-- A text is read as a token that no terminal tried before has a lexeme in. -/
theorem reads_of_scan {t : Terminal} {text : List Char} (found : t.scan text = some (text, []))
    (fails : ∀ u : Terminal, u.Before t → u.scan text = none) : t.Reads text := by
  obtain ⟨earlier, later, split, before⟩ := cut_byPriority t
  exact Item.firstScan_eq_some_iff.2
    ⟨earlier, later, split, fun u member => fails u (before u member), found⟩

/-! ## Names -/

/-- A name that a keyword can have. -/
structure IsName (name : List Char) : Prop where
  nonempty : name ≠ []
  plain : ∀ c ∈ name, isBlank c = false ∧ c ≠ '[' ∧ c ≠ ']' ∧ c ≠ ',' ∧ c ≠ ':'
  noDash : name.head? ≠ some '-'
  noQuote : name.head? ≠ some '"'
  noDots : ¬ ['.', '.'] <+: name

theorem isKey_iff {c : Char} :
    isKey c = true ↔ isBlank c = false ∧ c ≠ '[' ∧ c ≠ ']' ∧ c ≠ ',' ∧ c ≠ ':' := by
  simp [isKey, isBare, and_assoc]

theorem reads_key {name : List Char} (h : IsName name) : key.Reads (name ++ [':']) := by
  obtain ⟨nonempty, plain, noDash, noQuote, noDots⟩ := h
  obtain ⟨c, name, rfl⟩ := List.exists_cons_of_ne_nil nonempty
  have inside : ∀ d ∈ c :: name, isKey d = true := fun d member => isKey_iff.2 (plain d member)
  obtain ⟨first, others⟩ := List.forall_mem_cons.1 inside
  have starts : isKeyStart c = true := by
    have dash : c ≠ '-' := by simpa using noDash
    have quote : c ≠ '"' := by simpa using noQuote
    simp only [isKey, Bool.and_eq_true] at first
    simp [isKeyStart, isBareStart, first.1, dash, quote]
    simpa using first.2
  have apart : Terminal.noDots (c :: name ++ [':']) = true := by
    cases name with
    | nil => simp [noDots_cons_cons]
    | cons d name =>
      have pair : c ≠ '.' ∨ d ≠ '.' := by
        by_cases first : c = '.'
        · refine .inr fun second => noDots ⟨name, ?_⟩
          rw [first, second]
          rfl
        · exact .inl first
      simpa [noDots_cons_cons] using pair
  have body := key_body_eq_some.2 ⟨c, name, rfl, starts, others, apart, (List.append_nil _).symm⟩
  have found := before_eq_some.2 ⟨body, (rfl : key.follow [] = true)⟩
  exact reads_of_scan found fun u before => absurd before (not_before_key u)

/-- What stands before the colon of a keyword is a name. -/
theorem isName_of_key {cs l rest : List Char} (h : key.body cs = some (l, rest)) :
    IsName l.dropLast := by
  obtain ⟨c, name, rfl, start, inside, dots, -⟩ := key_body_eq_some.1 h
  have before : (c :: name ++ [':']).dropLast = c :: name := List.dropLast_concat
  rw [before]
  simp only [isKeyStart, isBareStart, Bool.and_eq_true, bne_iff_ne] at start
  obtain ⟨⟨⟨bare, noQuote⟩, noDash⟩, noColon⟩ := start
  have first : isKey c = true := by simp [isKey, bare, noColon]
  refine ⟨by simp, fun d member => ?_, by simpa using noDash, by simpa using noQuote, ?_⟩
  · rcases List.mem_cons.1 member with rfl | later
    · exact isKey_iff.1 first
    · exact isKey_iff.1 (inside d later)
  · rintro ⟨tail, same⟩
    rw [List.cons_append, ← List.cons_append, ← same] at dots
    exact absurd dots (by simp [noDots_cons_cons])

theorem isKey_of_isFlag {c : Char} (h : isFlag c = true) : isKey c = true := by
  have apart {d : Char} (other : isFlag d = false) : c ≠ d := by
    rintro rfl
    simp [h] at other
  refine isKey_iff.2 ⟨?_, apart ?_, apart ?_, apart ?_, apart ?_⟩
  · cases blank : isBlank c with
    | false => rfl
    | true =>
      have stop : c ∈ valueStops :=
        List.mem_cons_of_mem _ (List.mem_cons_of_mem _ (mem_blanks blank))
      exact absurd (by simp [h]) (List.any_eq_false.1 isFlag_valueStops c stop)
  all_goals decide +kernel

/-- What stands behind the dash of a flag is a name. -/
theorem isName_of_flag {cs l rest : List Char} (h : flag.scan cs = some (l, rest)) :
    IsName (l.drop 1) := by
  obtain ⟨c, name, rfl, start, inside, -⟩ := flag_scan_eq_some h
  have apart {d : Char} (other : isFlagStart d = false) : c ≠ d := by
    rintro rfl
    simp [start] at other
  have first : isFlag c = true := by
    simp only [isFlagStart, Bool.and_eq_true] at start
    simp [isFlag, start.1]
  have dash : c ≠ '-' := apart (by decide +kernel)
  have quote : c ≠ '"' := apart (by decide +kernel)
  have dot : c ≠ '.' := apart (by decide +kernel)
  refine ⟨by simp, fun d member => ?_, by simpa using dash, by simpa using quote, ?_⟩
  · rcases List.mem_cons.1 member with rfl | later
    · exact isKey_iff.1 (isKey_of_isFlag first)
    · exact isKey_iff.1 (isKey_of_isFlag (inside d later))
  · rintro ⟨tail, same⟩
    exact dot (List.cons.inj same).1.symm

theorem key_scan_of_no_colon {cs : List Char} (h : ':' ∉ cs) : key.scan cs = none := by
  cases found : key.scan cs with
  | none => rfl
  | some token =>
    obtain ⟨c, name, same, -, -, -, split⟩ := key_body_eq_some.1 (before_eq_some.1 found).1
    refine absurd ?_ h
    rw [split, same]
    simp

/-! ## Integers and ranges -/

theorem digits_append {ds rest : List Char} (h : IsDigits ds)
    (stops : ∀ c ∈ rest.head?, isAsciiDigit c = false) :
    Terminal.digits (ds ++ rest) = some (ds, rest) := by
  obtain ⟨nonempty, all⟩ := h
  obtain ⟨c, ds, rfl⟩ := List.exists_cons_of_ne_nil nonempty
  obtain ⟨digit, digits⟩ := List.forall_mem_cons.1 all
  have kept : rest.takeWhile isAsciiDigit = [] ∧ rest.dropWhile isAsciiDigit = rest := by
    cases rest with
    | nil => exact ⟨rfl, rfl⟩
    | cons d rest => simp [stops d rfl]
  simp [Terminal.digits, many1, Scanner.seq, one, many, digit,
    List.takeWhile_append_of_pos digits, List.dropWhile_append_of_pos digits, kept]

/-- An integer is read up to where its digits end. -/
theorem integer_append {cs rest : List Char} (h : IsLiteral cs)
    (stops : ∀ c ∈ rest.head?, isAsciiDigit c = false) :
    integer (cs ++ rest) = some (cs, rest) := by
  cases h with
  | positive digits =>
    have found := digits_append digits stops
    obtain ⟨c, ds, rfl⟩ := List.exists_cons_of_ne_nil digits.1
    have dash : c ≠ '-' := ne_of_isAsciiDigit (digits.2 c List.mem_cons_self) rfl
    rw [List.cons_append] at found
    simp [integer, Scanner.seq, Scanner.optional, Scanner.orElse, one, dash, found]
  | negative digits =>
    simp [integer, Scanner.seq, Scanner.optional, Scanner.orElse, one, digits_append digits stops]

/-- The characters of integers and ranges. -/
theorem isLiteral_chars {cs : List Char} (h : IsLiteral cs) :
    ∀ c ∈ cs, isAsciiDigit c = true ∨ c = '-' := by
  cases h with
  | positive digits => exact fun c member => .inl (digits.2 c member)
  | negative digits =>
    exact List.forall_mem_cons.2 ⟨.inr rfl, fun c member => .inl (digits.2 c member)⟩

theorem no_colon_of_isLiteral {cs : List Char} (h : IsLiteral cs) : ':' ∉ cs := fun member => by
  rcases isLiteral_chars h _ member with digit | dash
  · exact absurd digit (by decide)
  · exact absurd dash (by decide)

theorem reads_range {low high : List Char} (h : IsLiteral low) (h' : IsLiteral high) :
    (scalar .range).Reads (low ++ '.' :: '.' :: high) := by
  have first : integer (low ++ '.' :: '.' :: high) = some (low, '.' :: '.' :: high) :=
    integer_append h (by simp; rfl)
  have second : integer high = some (high, []) := by
    simpa using @integer_append high [] h' (by simp)
  have body : (scalar .range).body (low ++ '.' :: '.' :: high) =
      some (low ++ '.' :: '.' :: high, []) := by
    simp [Terminal.body, Scanner.seq, first, dots, one, second]
  have found := before_eq_some.2 ⟨body, (rfl : (scalar .range).follow [] = true)⟩
  refine reads_of_scan found fun u before => ?_
  have rivals : u = key ∨ u = flag := by
    cases u with
    | key => exact .inl rfl
    | flag => exact .inr rfl
    | scalar form => cases form <;> exact absurd before (by decide)
    | _ => exact absurd before (by decide)
  rcases rivals with rfl | rfl
  · refine key_scan_of_no_colon ?_
    have here := no_colon_of_isLiteral h
    have there := no_colon_of_isLiteral h'
    simp [here, there]
  · exact flag_scan_eq_none found

theorem reads_int {cs : List Char} (h : IsLiteral cs) : (scalar .int).Reads cs := by
  have whole : integer cs = some (cs, []) := by
    simpa using @integer_append cs [] h (by simp)
  have found : (scalar .int).scan cs = some (cs, []) :=
    before_eq_some.2 ⟨whole, rfl⟩
  refine reads_of_scan found fun u before => ?_
  obtain ⟨c, rest, rfl, -⟩ := h.head
  have first := isLiteral_chars h c List.mem_cons_self
  have other {d : Char} (digit : isAsciiDigit d = false) (dash : d ≠ '-') : c ≠ d := by
    rintro rfl
    rcases first with same | same
    · simp [same] at digit
    · exact dash same
  -- What is tried before an integer begins with another character, or needs one that is not there.
  cases u with
  | key => exact key_scan_of_no_colon (no_colon_of_isLiteral h)
  | flag => exact flag_scan_eq_none found
  | openBracket => exact mark_scan_of_ne rfl (other rfl (by decide)) rest
  | closeBracket => exact mark_scan_of_ne rfl (other rfl (by decide)) rest
  | comma => exact mark_scan_of_ne rfl (other rfl (by decide)) rest
  | scalar form =>
    cases form with
    | range => simp [scan, Terminal.body, Scanner.before, Scanner.seq, whole, dots, one]
    | rangeTo =>
      have dot : c ≠ '.' := other rfl (by decide)
      simp [scan, Terminal.body, Scanner.before, Scanner.seq, dots, one, dot]
    | bool =>
      have lower : c.toLower = c := by
        rcases first with digit | rfl
        · exact toLower_of_isAsciiDigit digit
        · rfl
      have true' : c ≠ 't' := other rfl (by decide)
      have false' : c ≠ 'f' := other rfl (by decide)
      simp [scan, Terminal.body, Scanner.before, Scanner.orElse, word, Scanner.seq, one, sameLetter,
        lower, true', false']
    | float =>
      simp [scan, Terminal.body, Scanner.before, Scanner.seq, whole, fraction, Scanner.orElse,
        exponent, one]
    | _ => exact absurd before (by decide)

/-! ## Truth values and strings -/

theorem reads_bool (b : Bool) : (scalar .bool).Reads (if b then "true" else "false").toList := by
  unfold Reads
  cases b <;> decide +kernel

/-- The characters of a bareword. -/
theorem isBare_of_bareword {cs l rest : List Char}
    (h : (scalar .bareword).body cs = some (l, rest)) : ∀ c ∈ l, isBare c = true := by
  have whole : (one isBareStart).seq (many isBare) cs = some (l, rest) := h
  obtain ⟨_, tail, m, first, second, rfl⟩ := seq_eq_some.1 whole
  obtain ⟨c, rfl, start, -⟩ := one_eq_some.1 first
  obtain ⟨rfl, -⟩ : m.takeWhile isBare = tail ∧ _ := by simpa [many] using second
  simp only [isBareStart, Bool.and_eq_true] at start
  exact List.forall_mem_cons.2 ⟨start.1.1, List.all_eq_true.1 List.all_takeWhile⟩

theorem reads_quoted {body : List Char} (h : Inside false body) :
    (scalar .quoted).Reads ('"' :: body ++ ['"']) := by
  have found := quoted_body_eq_some.2 ⟨body, rfl, h, (List.append_nil _).symm⟩
  refine reads_of_scan (before_eq_some.2 ⟨found, rfl⟩) fun u before => ?_
  exact scan_quote before.ne _

end CommandLine.Terminal
