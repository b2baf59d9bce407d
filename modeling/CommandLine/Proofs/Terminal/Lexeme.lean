import CommandLine.Item.Reader
import CommandLine.Proofs.Terminal.Quotation

/-!
# Lexemes and what follows them

Which token is read at the front of a text does not depend on what follows the token, as long as
something follows that may: `firstScan_transfer`.
-/

namespace CommandLine.Terminal
open CommandLine.Text CommandLine.Text.Scanner CommandLine.Item

/-! ## Where terminals stop -/

/-- The characters before which a value may end. -/
def valueStops : List Char := ',' :: ']' :: blanks

theorem endsValue_of_endsWord {cs : List Char} (h : endsWord cs = true) : endsValue cs = true := by
  cases cs with
  | nil => rfl
  | cons c cs => simp_all [endsWord, endsValue]

theorem mem_valueStops {c : Char} {cs : List Char} (h : endsValue (c :: cs) = true) :
    c ∈ valueStops := by
  have split : (isBlank c = true ∨ c = ',') ∨ c = ']' := by simpa [endsValue] using h
  rcases split with (blank | rfl) | rfl
  · exact List.mem_cons_of_mem _ (List.mem_cons_of_mem _ (mem_blanks blank))
  · exact List.mem_cons_self
  · exact List.mem_cons_of_mem _ List.mem_cons_self

/-- A class that holds none of the characters before which a value may end. -/
theorem outside_endsValue {p : Char → Bool} (h : valueStops.any p = false) :
    Outside p endsValue := fun _ _ ends =>
  Bool.eq_false_iff.2 (List.any_eq_false.1 h _ (mem_valueStops ends))

theorem outside_endsWord {p : Char → Bool} (h : valueStops.any p = false) :
    Outside p endsWord := fun c cs ends => outside_endsValue h c cs (endsValue_of_endsWord ends)

theorem endsValue_append (cs rest : List Char) (h : endsValue rest = true) :
    endsValue (cs ++ rest) = endsValue cs := by
  cases cs with
  | nil => simpa [endsValue] using h
  | cons c cs => rfl

theorem endsWord_append (cs rest : List Char) (h : endsWord rest = true) :
    endsWord (cs ++ rest) = endsWord cs := by
  cases cs with
  | nil => simpa [endsWord] using h
  | cons c cs => rfl

theorem ne_of_endsValue {c d : Char} {cs : List Char} (h : endsValue (c :: cs) = true)
    (other : d ∉ valueStops) : c ≠ d := fun same => other (same ▸ mem_valueStops h)

theorem noSlashes_cons_cons (c d : Char) (cs : List Char) :
    noSlashes (c :: d :: cs) = !(c == '/' && d == '/') := by
  by_cases first : c = '/' <;> by_cases second : d = '/' <;> simp [noSlashes, first, second]

theorem noDots_cons_cons (c d : Char) (cs : List Char) :
    noDots (c :: d :: cs) = !(c == '.' && d == '.') := by
  by_cases first : c = '.' <;> by_cases second : d = '.' <;> simp [noDots, first, second]

theorem noSlashes_append (cs rest : List Char) (h : endsValue rest = true) :
    noSlashes (cs ++ rest) = noSlashes cs := by
  have apart : '/' ∉ valueStops := by decide
  rcases cs with _ | ⟨c, _ | ⟨d, cs⟩⟩
  · rcases rest with _ | ⟨c, rest⟩
    · rfl
    · simp [noSlashes, ne_of_endsValue h apart]
  · rcases rest with _ | ⟨d, rest⟩
    · rfl
    · simp [noSlashes, ne_of_endsValue h apart]
  · simp only [List.cons_append, noSlashes_cons_cons]

theorem noDots_append (cs rest : List Char) (h : endsValue rest = true) :
    noDots (cs ++ rest) = noDots cs := by
  have apart : '.' ∉ valueStops := by decide
  rcases cs with _ | ⟨c, _ | ⟨d, cs⟩⟩
  · rcases rest with _ | ⟨c, rest⟩
    · rfl
    · simp [noDots, ne_of_endsValue h apart]
  · rcases rest with _ | ⟨d, rest⟩
    · rfl
    · simp [noDots, ne_of_endsValue h apart]
  · simp only [List.cons_append, noDots_cons_cons]

theorem digits_stopsAt : digits.StopsAt endsValue :=
  many1_stopsAt (outside_endsValue (by decide))

theorem integer_stopsAt : integer.StopsAt endsValue :=
  (one_stopsAt (outside_endsValue (by decide))).optional.seq digits_stopsAt

theorem dot_stopsAt : (one (· == '.')).StopsAt endsValue :=
  one_stopsAt (outside_endsValue (by decide))

theorem dots_stopsAt : dots.StopsAt endsValue := dot_stopsAt.seq dot_stopsAt

theorem exponent_stopsAt : exponent.StopsAt endsValue :=
  (one_stopsAt (outside_endsValue (by decide))).seq
    ((one_stopsAt (outside_endsValue (by decide))).optional.seq digits_stopsAt)

theorem fraction_stopsAt : fraction.StopsAt endsValue :=
  (dot_stopsAt.seq (digits_stopsAt.seq exponent_stopsAt.optional)).orElse exponent_stopsAt

theorem word_sameLetter_stopsAt {letters : List Char}
    (h : (letters.any fun letter => valueStops.any (sameLetter letter)) = false) :
    (word sameLetter letters).StopsAt endsValue :=
  word_stopsAt fun letter member =>
    outside_endsValue (Bool.eq_false_iff.2 (List.any_eq_false.1 h letter member))

/-- The lexeme of a value other than a quoted string stops where a value may end. -/
theorem scalar_body_stopsAt {form : Scalar} (h : form ≠ .quoted) :
    (scalar form).body.StopsAt endsValue := by
  cases form with
  | range => exact integer_stopsAt.seq (dots_stopsAt.seq integer_stopsAt)
  | rangeTo => exact dots_stopsAt.seq integer_stopsAt
  | bool =>
    exact (word_sameLetter_stopsAt (by decide)).orElse
      (word_sameLetter_stopsAt (by decide))
  | float => exact integer_stopsAt.seq fraction_stopsAt
  | int => exact integer_stopsAt
  | quoted => exact absurd rfl h
  | bareword =>
    exact (one_stopsAt (outside_endsValue (by decide))).seq
      (many_stopsAt (outside_endsValue (by decide)))

theorem scalar_scan_stopsAt {form : Scalar} (h : form ≠ .quoted) :
    (scalar form).scan.StopsAt endsValue :=
  (scalar_body_stopsAt h).before endsValue_append

theorem key_scan_stopsAt : key.scan.StopsAt endsValue :=
  (((one_stopsAt (outside_endsValue (by decide))).seq
    ((many_stopsAt (outside_endsValue (by decide))).seq
      (one_stopsAt (outside_endsValue (by decide))))).only noDots_append).before
    noSlashes_append

theorem isFlag_valueStops :
    (valueStops.any fun c => c == '-' || isFlagStart c || isFlag c) = false := by
  decide +kernel

theorem flag_scan_stopsAt : flag.scan.StopsAt endsWord := by
  have apart {p : Char → Bool}
      (h : ∀ c, p c = true → (c == '-' || isFlagStart c || isFlag c) = true) :
      valueStops.any p = false := by
    refine List.any_eq_false.2 fun c member holds => ?_
    exact List.any_eq_false.1 isFlag_valueStops c member (h c holds)
  have dash := apart fun c (h : (c == '-') = true) => by simp [h]
  have start := apart fun c (h : isFlagStart c = true) => by simp [h]
  have goesOn := apart fun c (h : isFlag c = true) => by simp [h]
  exact ((one_stopsAt (outside_endsWord dash)).seq ((one_stopsAt (outside_endsWord start)).seq
    (many_stopsAt (outside_endsWord goesOn)))).before endsWord_append

theorem openBracket_scan_stopsAt : openBracket.scan.StopsAt endsValue :=
  (one_stopsAt (outside_endsValue (by decide))).before fun _ _ _ => rfl

theorem outside_blank {p : Char → Bool} (h : blanks.any p = false) : Outside p endsWord :=
  fun c _ ends => Bool.eq_false_iff.2 (List.any_eq_false.1 h c (mem_blanks ends))

/-- Every lexeme but that of a quoted string stops where a word ends. -/
theorem scan_stopsAt {t : Terminal} (h : t ≠ scalar .quoted) : t.scan.StopsAt endsWord := by
  have value {t : Terminal} (stops : t.scan.StopsAt endsValue) : t.scan.StopsAt endsWord :=
    stops.mono fun _ => endsValue_of_endsWord
  cases t with
  | key => exact value key_scan_stopsAt
  | flag => exact flag_scan_stopsAt
  | openBracket => exact value openBracket_scan_stopsAt
  | closeBracket =>
    exact (one_stopsAt (outside_blank (by decide))).before fun cs rest ends =>
      endsValue_append cs rest (endsValue_of_endsWord ends)
  | comma => exact (one_stopsAt (outside_blank (by decide))).before fun _ _ _ => rfl
  | scalar form =>
    apply value
    apply scalar_scan_stopsAt
    rintro rfl
    exact h rfl

/-! ## Marks -/

/-- The character of a mark: a bracket or a comma. -/
def mark? : Terminal → Option Char
  | openBracket => some '['
  | closeBracket => some ']'
  | comma => some ','
  | _ => none

theorem mem_of_mark {t : Terminal} {c : Char} (h : t.mark? = some c) : c ∈ ['[', ']', ','] := by
  cases t <;> cases h <;> decide

theorem visible_of_mark {t : Terminal} {c : Char} (h : t.mark? = some c) : isBlank c = false := by
  cases t <;> cases h <;> decide

theorem body_of_mark {t : Terminal} {c : Char} (h : t.mark? = some c) : t.body = one (· == c) := by
  cases t <;> cases h <;> rfl

/-- The lexeme of a mark is its character. -/
theorem text_of_mark {t : Terminal} {c : Char} {cs l rest : List Char} (h : t.mark? = some c)
    (scanned : t.scan cs = some (l, rest)) : l = [c] := by
  have body := (before_eq_some.1 scanned).1
  rw [body_of_mark h] at body
  obtain ⟨d, rfl, same, -⟩ := one_eq_some.1 body
  rw [beq_iff_eq.1 same]

theorem mark_scan_of_ne {t : Terminal} {c d : Char} (h : t.mark? = some d) (apart : c ≠ d)
    (cs : List Char) : t.scan (c :: cs) = none := by
  simp [scan, body_of_mark h, Scanner.before, one, apart]

/-- No other terminal begins with the character of a mark. -/
theorem scan_mark {t u : Terminal} {c : Char} (h : u.mark? = some c) (other : t ≠ u)
    (cs : List Char) : t.scan (c :: cs) = none := by
  cases mark : t.mark? with
  | some d =>
    refine mark_scan_of_ne mark ?_ cs
    rintro rfl
    cases t <;> cases mark <;> cases u <;> cases h <;> exact other rfl
  | none =>
    cases t with
    | scalar form => cases form <;> cases u <;> cases h <;> rfl
    | key => cases u <;> cases h <;> rfl
    | flag => cases u <;> cases h <;> rfl
    | _ => cases mark

/-! ## First characters -/

theorem scan_quote {t : Terminal} (h : t ≠ scalar .quoted) (cs : List Char) :
    t.scan ('"' :: cs) = none := by
  cases t with
  | scalar form =>
    cases form with
    | quoted => exact absurd rfl h
    | _ => rfl
  | _ => rfl

theorem key_scan_dash (cs : List Char) : key.scan ('-' :: cs) = none := rfl

theorem toNat_of_isAsciiDigit {c : Char} (h : isAsciiDigit c = true) :
    48 ≤ c.toNat ∧ c.toNat ≤ 57 := by
  simpa [isAsciiDigit, Char.le_def, UInt32.le_iff_toNat_le] using h

theorem isDigit_of_isAsciiDigit {c : Char} (h : isAsciiDigit c = true) : isDigit c = true := by
  obtain ⟨low, high⟩ := toNat_of_isAsciiDigit h
  have notBelow : ¬ c.toNat < 48 := by omega
  simp [isDigit, digitIntervals, Intervals.has, notBelow, high]

/-- What begins like a flag is no integer. -/
theorem integer_dash {c : Char} (h : isFlagStart c = true) (cs : List Char) :
    integer ('-' :: c :: cs) = none := by
  have noDigit : isAsciiDigit c = false := by
    cases digit : isAsciiDigit c with
    | false => rfl
    | true => simp [isFlagStart, isDigit_of_isAsciiDigit digit] at h
  simp [integer, Scanner.seq, Scanner.optional, Scanner.orElse, one, digits, many1, noDigit]

theorem flag_scan_eq_some {cs l rest : List Char} (h : flag.scan cs = some (l, rest)) :
    ∃ c name, l = '-' :: c :: name ∧ isFlagStart c = true ∧ (∀ x ∈ name, isFlag x = true) ∧
      cs = l ++ rest := by
  have split := (scan_proper _ _ _ _ h).1
  obtain ⟨dash, l₂, m, first, second, rfl⟩ := seq_eq_some.1 (before_eq_some.1 h).1
  obtain ⟨d, rfl, isDash, rfl⟩ := one_eq_some.1 first
  obtain ⟨start, name, m', third, fourth, rfl⟩ := seq_eq_some.1 second
  obtain ⟨c, rfl, starts, rfl⟩ := one_eq_some.1 third
  obtain rfl : d = '-' := by simpa using isDash
  obtain ⟨rfl, -⟩ : m'.takeWhile isFlag = name ∧ _ := by simpa [many] using fourth
  exact ⟨c, _, rfl, starts, List.all_eq_true.1 List.all_takeWhile, split⟩

/-- No value begins like a flag. -/
theorem flag_scan_eq_none {form : Scalar} {cs : List Char} {found : List Char × List Char}
    (h : (scalar form).scan cs = some found) : flag.scan cs = none := by
  cases flagged : flag.scan cs with
  | none => rfl
  | some other =>
    obtain ⟨c, name, same, starts, -, rfl⟩ := flag_scan_eq_some flagged
    have body := (before_eq_some.1 h).1
    rw [same, List.cons_append, List.cons_append] at body
    have number := integer_dash starts (name ++ other.2)
    cases form with
    | range => simp [Terminal.body, Scanner.seq, number] at body
    | float => simp [Terminal.body, Scanner.seq, number] at body
    | int => simp [Terminal.body, number] at body
    | _ => cases body

/-! ## Lexemes before other texts -/

theorem colon_apart (c : Char) (h : (c == ':') = true) : isKey c = false := by
  obtain rfl : c = ':' := by simpa using h
  rfl

/-- A keyword's lexeme is its name and a colon. -/
theorem key_body_eq_some {cs l rest : List Char} :
    key.body cs = some (l, rest) ↔
      ∃ c name, l = c :: name ++ [':'] ∧ isKeyStart c = true ∧ (∀ x ∈ name, isKey x = true) ∧
        noDots l = true ∧ cs = l ++ rest := by
  have startsAlike (c : Char) (name rest : List Char) :
      noDots (c :: name ++ [':'] ++ rest) = noDots (c :: name ++ [':']) := by
    cases name <;> simp [noDots_cons_cons]
  constructor
  · intro h
    have split := (body_proper _ _ _ _ h).1
    have starts : noDots cs = true := by
      cases dots : noDots cs with
      | true => rfl
      | false => simp [Terminal.body, Scanner.only, dots] at h
    have named : (one isKeyStart).seq ((many isKey).seq (one (· == ':'))) cs = some (l, rest) := by
      simpa [Terminal.body, Scanner.only, starts] using h
    obtain ⟨_, l₂, m, first, second, rfl⟩ := seq_eq_some.1 named
    obtain ⟨c, rfl, start, rfl⟩ := one_eq_some.1 first
    obtain ⟨name, d, rfl, inside, colon, rfl⟩ := (many_seq_one_eq_some colon_apart).1 second
    obtain rfl : d = ':' := by simpa using colon
    refine ⟨c, name, rfl, start, inside, ?_, split⟩
    rw [split] at starts
    exact startsAlike c name rest ▸ starts
  · rintro ⟨c, name, rfl, start, inside, starts, rfl⟩
    have named : (one isKeyStart).seq ((many isKey).seq (one (· == ':')))
        (c :: name ++ [':'] ++ rest) = some (c :: name ++ [':'], rest) :=
      seq_eq_some.2 ⟨[c], name ++ [':'], name ++ [':'] ++ rest,
        one_eq_some.2 ⟨c, rfl, start, by simp⟩,
        (many_seq_one_eq_some colon_apart).2 ⟨name, ':', rfl, inside, rfl, rfl⟩, by simp⟩
    rw [← startsAlike c name rest] at starts
    simp only [Terminal.body, Scanner.only, starts, if_true]
    exact named

theorem key_body_closed : key.body.Closed := by
  intro l rest other h
  obtain ⟨c, name, rfl, start, inside, starts, -⟩ := key_body_eq_some.1 h
  exact key_body_eq_some.2 ⟨c, name, rfl, start, inside, starts, rfl⟩

theorem scan_transfer_of_closed {t : Terminal} (closed : t.body.Closed) {l rest other : List Char}
    (h : t.scan (l ++ rest) = some (l, rest)) (follows : t.follow other = true) :
    t.scan (l ++ other) = some (l, other) :=
  before_eq_some.2 ⟨closed l rest other (before_eq_some.1 h).1, follows⟩

/-- A lexeme stays the lexeme of its terminal when something else follows that may. -/
theorem scan_transfer {t : Terminal} {l rest other : List Char}
    (h : t.scan (l ++ rest) = some (l, rest)) (follows : t.follow other = true) :
    t.scan (l ++ other) = some (l, other) := by
  have followed := (before_eq_some.1 h).2
  cases t with
  | key => exact scan_transfer_of_closed key_body_closed h follows
  | flag =>
    exact flag_scan_stopsAt.before_rest follows (flag_scan_stopsAt.alone followed h)
  | openBracket => exact scan_transfer_of_closed (t := openBracket) (one_closed _) h follows
  | closeBracket => exact scan_transfer_of_closed (t := closeBracket) (one_closed _) h follows
  | comma => exact scan_transfer_of_closed (t := comma) (one_closed _) h follows
  | scalar form =>
    by_cases quoted : form = .quoted
    · subst quoted
      exact scan_transfer_of_closed quoted_body_closed h follows
    · have stops := scalar_scan_stopsAt quoted
      exact stops.before_rest follows (stops.alone followed h)

/-- A terminal that is tried before another one. -/
def Before (u t : Terminal) : Prop := byPriority.idxOf u < byPriority.idxOf t

instance (u t : Terminal) : Decidable (u.Before t) :=
  inferInstanceAs (Decidable (byPriority.idxOf u < byPriority.idxOf t))

theorem Before.ne {u t : Terminal} (h : u.Before t) : u ≠ t := by
  rintro rfl
  exact absurd h (Nat.lt_irrefl _)

theorem not_before_key (u : Terminal) : ¬ u.Before key := by
  intro h
  exact absurd h (Nat.not_lt_zero _)

theorem eq_key_of_before_flag {u : Terminal} (h : u.Before flag) : u = key := by
  cases u with
  | key => rfl
  | scalar form => cases form <;> exact absurd h (by decide)
  | _ => exact absurd h (by decide)

/-- Where one terminal alone begins with a character, no two terminals have a lexeme there. -/
theorem scan_of_mark {c : Char} {owner t u : Terminal} {l rest other : List Char}
    (mark : ∀ t, t ≠ owner → ∀ cs, t.scan (c :: cs) = none)
    (found : t.scan (c :: rest) = some (l, other)) (apart : u ≠ t) (cs : List Char) :
    u.scan (c :: cs) = none := by
  by_cases owns : t = owner
  · exact mark u (owns ▸ apart) cs
  · simp [mark t owns rest] at found

theorem quoted_scan_of_ne {c : Char} (h : c ≠ '"') (cs : List Char) :
    (scalar .quoted).scan (c :: cs) = none := by
  simp [scan, Terminal.body, Scanner.before, Scanner.seq, one, h]

/-- Where a comma or a closing bracket is read, no other terminal begins with the same
character. -/
theorem eq_of_separator {t u : Terminal} {c : Char} {cs ds : List Char}
    {found found' : List Char × List Char} (separates : u = comma ∨ u = closeBracket)
    (h : u.scan (c :: cs) = some found) (h' : t.scan (c :: ds) = some found') : t = u := by
  obtain ⟨d, mark⟩ : ∃ d, u.mark? = some d := by
    rcases separates with rfl | rfl
    · exact ⟨',', rfl⟩
    · exact ⟨']', rfl⟩
  obtain rfl : c = d := by
    by_cases here : c = d
    · exact here
    · simp [mark_scan_of_ne mark here] at h
  by_cases same : t = u
  · exact same
  · simp [scan_mark mark same] at h'

/-- What is tried before a value fails at the value's lexeme, whatever follows the lexeme. -/
theorem scalar_rival_transfer {form : Scalar} {u : Terminal} {c : Char} {l rest other : List Char}
    (own : (scalar form).scan (c :: l ++ other) = some (c :: l, other))
    (followed : endsValue rest = true) (follows : endsValue other = true)
    (fails : u.scan (c :: l ++ rest) = none)
    (noMark : ∀ t d, mark? t = some d → c ≠ d) (noQuote : c ≠ '"') :
    u.scan (c :: l ++ other) = none := by
  cases u with
  | key => exact (key_scan_stopsAt.none_iff followed follows).1 fails
  | flag => exact flag_scan_eq_none own
  | openBracket => exact (openBracket_scan_stopsAt.none_iff followed follows).1 fails
  | closeBracket => exact mark_scan_of_ne rfl (noMark closeBracket _ rfl) _
  | comma => exact mark_scan_of_ne rfl (noMark comma _ rfl) _
  | scalar form' =>
    by_cases quoted : form' = .quoted
    · exact quoted ▸ quoted_scan_of_ne noQuote _
    · exact ((scalar_scan_stopsAt quoted).none_iff followed follows).1 fails

/-- What is tried before a terminal fails at its lexeme, whatever follows the lexeme. -/
theorem rival_transfer {t u : Terminal} (earlier : u.Before t) {l rest other : List Char}
    (h : t.scan (l ++ rest) = some (l, rest)) (follows : t.follow other = true)
    (fails : u.scan (l ++ rest) = none) : u.scan (l ++ other) = none := by
  have own := scan_transfer h follows
  have followed := (before_eq_some.1 h).2
  obtain ⟨c, l, rfl⟩ := List.exists_cons_of_ne_nil (scan_proper _ _ _ _ h).2
  rw [List.cons_append] at own ⊢
  -- Marks and the quote begin the lexemes of one terminal each. Behind any other character a rival
  -- stops where the lexeme ends, so it cannot tell one follower from another.
  by_cases marked : ∃ owner : Terminal, owner.mark? = some c
  · obtain ⟨owner, mark⟩ := marked
    exact scan_of_mark (fun _ other => scan_mark mark other) own earlier.ne _
  have noMark : ∀ v d, mark? v = some d → c ≠ d := fun v d mark same => marked ⟨v, same ▸ mark⟩
  by_cases quotes : c = '"'
  · exact scan_of_mark (fun _ => quotes ▸ scan_quote) own earlier.ne _
  cases mark : t.mark? with
  | some d => simp [mark_scan_of_ne mark (noMark t d mark)] at own
  | none =>
    cases t with
    | key => exact absurd earlier (not_before_key u)
    | flag =>
      obtain ⟨d, name, same, -⟩ := flag_scan_eq_some own
      obtain rfl : c = '-' := (List.cons.inj same).1
      exact eq_key_of_before_flag earlier ▸ key_scan_dash _
    | scalar form => exact scalar_rival_transfer own followed follows fails noMark quotes
    | _ => cases mark

end CommandLine.Terminal

/-! ## The first terminal with a lexeme -/

namespace CommandLine.Item
open CommandLine.Terminal

theorem firstScan_eq_some_iff {ts : List Terminal} {cs l rest : List Char} {t : Terminal} :
    firstScan ts cs = some (t, l, rest) ↔
      ∃ earlier later, ts = earlier ++ t :: later ∧ (∀ u ∈ earlier, u.scan cs = none) ∧
        t.scan cs = some (l, rest) := by
  induction ts with
  | nil => simp [firstScan]
  | cons u ts ih =>
    rw [firstScan]
    split
    · next l' rest' here =>
      constructor
      · intro h
        obtain ⟨rfl, rfl, rfl⟩ : u = t ∧ l' = l ∧ rest' = rest := by simpa using h
        exact ⟨[], ts, rfl, by simp, here⟩
      · rintro ⟨_ | ⟨v, earlier⟩, later, same, fails, found⟩
        · cases same
          simpa [here] using found
        · cases same
          simp [fails _ List.mem_cons_self] at here
    · next here =>
      rw [ih]
      constructor
      · rintro ⟨earlier, later, rfl, fails, found⟩
        exact ⟨u :: earlier, later, rfl, by simpa [here] using fails, found⟩
      · rintro ⟨_ | ⟨v, earlier⟩, later, same, fails, found⟩
        · cases same
          simp [here] at found
        · cases same
          exact ⟨earlier, later, rfl,
            fun w member => fails w (List.mem_cons_of_mem _ member), found⟩

theorem follow_of_firstScan {ts : List Terminal} {cs l rest : List Char} {t : Terminal}
    (h : firstScan ts cs = some (t, l, rest)) :
    t.scan cs = some (l, rest) ∧ t.follow rest = true := by
  obtain ⟨_, _, -, -, scanned⟩ := firstScan_eq_some_iff.1 h
  exact ⟨scanned, (Text.Scanner.before_eq_some.1 scanned).2⟩

theorem firstScan_eq_none_iff {ts : List Terminal} {cs : List Char} :
    firstScan ts cs = none ↔ ∀ t ∈ ts, t.scan cs = none := by
  induction ts with
  | nil => simp [firstScan]
  | cons u ts ih =>
    rw [firstScan, List.forall_mem_cons, ← ih]
    split <;> simp [*]

theorem byPriority_pairwise : byPriority.Pairwise Before := by decide

/-- Which token is read first does not depend on what follows the token, as long as that may
follow it. -/
theorem firstScan_transfer {sought : Terminal → Bool} {t : Terminal} {l rest other : List Char}
    (h : firstScan (byPriority.filter sought) (l ++ rest) = some (t, l, rest))
    (follows : t.follow other = true) :
    firstScan (byPriority.filter sought) (l ++ other) = some (t, l, other) := by
  obtain ⟨earlier, later, split, fails, found⟩ := firstScan_eq_some_iff.1 h
  have ordered := byPriority_pairwise.filter sought
  rw [split, List.pairwise_append] at ordered
  refine firstScan_eq_some_iff.2
    ⟨earlier, later, split, fun u member => ?_, scan_transfer found follows⟩
  have before : u.Before t := ordered.2.2 u member t List.mem_cons_self
  exact rival_transfer before found follows (fails u member)

/-- What is read first among many is read first among fewer. -/
theorem firstScan_filter {ts : List Terminal} {sought : Terminal → Bool} {cs l rest : List Char}
    {t : Terminal} (h : firstScan ts cs = some (t, l, rest)) (ht : sought t = true) :
    firstScan (ts.filter sought) cs = some (t, l, rest) := by
  obtain ⟨earlier, later, rfl, fails, found⟩ := firstScan_eq_some_iff.1 h
  refine firstScan_eq_some_iff.2
    ⟨earlier.filter sought, later.filter sought, by simp [ht], ?_, found⟩
  exact fun u member => fails u (List.mem_filter.1 member).1

/-- Terminals that fail at a text may be sought there or not. -/
theorem firstScan_filter_congr {ts : List Terminal} {sought sought' : Terminal → Bool}
    {cs : List Char} (h : ∀ u ∈ ts, sought u = sought' u ∨ u.scan cs = none) :
    firstScan (ts.filter sought) cs = firstScan (ts.filter sought') cs := by
  induction ts with
  | nil => rfl
  | cons u ts ih =>
    have tail := ih fun v member => h v (List.mem_cons_of_mem _ member)
    rcases h u List.mem_cons_self with same | fails
    · rw [List.filter_cons, List.filter_cons, same]
      split
      · simp only [firstScan, tail]
      · exact tail
    · have skip : ∀ (p : Terminal → Bool),
          firstScan ((u :: ts).filter p) cs = firstScan (ts.filter p) cs := by
        intro p
        rw [List.filter_cons]
        split <;> simp [firstScan, fails]
      rw [skip, skip, tail]

end CommandLine.Item
