import CommandLine.Proofs.Terminal.Form
import CommandLine.Proofs.Tree.ValuePosition

/-!
# Lines of one word

A line without blanks, quotes, brackets and commas is a keyword with its value, a flag, one value,
or nothing at all, and its first characters and its colons tell which (`Tree.parse_word`). It is
never more than one item: no lexeme but that of a keyword ends inside a word.
-/

namespace CommandLine
open CommandLine.Text CommandLine.Text.Scanner

namespace Terminal

variable {w l rest name : List Char}

/-! ## Names and flags -/

/-- A word begins with a name and a colon, its first one, and behind the colon does not go on like
an address. -/
structure NamesValue (w name rest : List Char) : Prop where
  split : w = name ++ ':' :: rest
  first : ':' ∉ name
  nonempty : name ≠ []
  noDash : w.head? ≠ some '-'
  noDots : ¬ ['.', '.'] <+: w
  noSlashes : ¬ ['/', '/'] <+: rest

/-- A dash with a name behind it that begins with a letter, or with another word character that is
no digit, and goes on with word characters and dashes. -/
def IsFlagWord (w : List Char) : Prop :=
  ∃ c name, w = '-' :: c :: name ∧ isFlagStart c = true ∧ ∀ d ∈ name, isFlag d = true

theorem IsFlagWord.isWord (h : IsFlagWord w) : IsWord w := by
  obtain ⟨c, name, rfl, start, inside⟩ := h
  have dash : isBlank '-' = false ∧ '-' ≠ '"' ∧ '-' ≠ '[' ∧ '-' ≠ ']' ∧ '-' ≠ ',' := by decide
  have first : isFlag c = true := by
    simp only [isFlagStart, Bool.and_eq_true] at start
    simp [isFlag, start.1]
  refine List.forall_mem_cons.2 ⟨dash, ?_⟩
  intro d member
  have plain : isFlag d = true := by
    rcases List.mem_cons.1 member with rfl | member
    · exact first
    · exact inside d member
  obtain ⟨visible, opening, closing, comma, -⟩ := isKey_iff.1 (isKey_of_isFlag plain)
  refine ⟨visible, ?_, opening, closing, comma⟩
  rintro rfl
  exact absurd plain (by decide +kernel)

theorem noSlashes_iff {cs : List Char} : noSlashes cs = true ↔ ¬ ['/', '/'] <+: cs := by
  unfold noSlashes
  split
  · next rest => simp
  · next other =>
    refine iff_of_true rfl ?_
    rintro ⟨rest, rfl⟩
    exact other rest rfl

theorem NamesValue.isName (h : NamesValue w name rest) (word : IsWord w) : IsName name := by
  obtain ⟨rfl, first, nonempty, noDash, noDots, -⟩ := h
  obtain ⟨c, tail, rfl⟩ := List.exists_cons_of_ne_nil nonempty
  refine ⟨nonempty, fun d member => ?_, noDash, ?_, fun dots => noDots (dots.trans ?_)⟩
  · obtain ⟨visible, -, opening, closing, comma⟩ := word d (List.mem_append_left _ member)
    exact ⟨visible, opening, closing, comma, fun same => first (same ▸ member)⟩
  · simpa using (word c (by simp)).2.1
  · exact List.prefix_append _ _

/-- The lexeme of a keyword in a word is a name before its first colon. -/
theorem namesValue_of_scan (scanned : key.scan w = some (l, rest)) :
    NamesValue w l.dropLast rest := by
  obtain ⟨body, follows⟩ := before_eq_some.1 scanned
  obtain ⟨nonempty, plain, noDash, -, noDots⟩ := isName_of_key body
  obtain ⟨c, name, rfl, -, -, -, rfl⟩ := key_body_eq_some.1 body
  have before : (c :: name ++ [':']).dropLast = c :: name := List.dropLast_concat
  rw [before] at nonempty plain noDash noDots ⊢
  refine ⟨by simp, fun colon => (plain ':' colon).2.2.2.2 rfl, nonempty, by simpa using noDash,
    fun dots => ?_, noSlashes_iff.1 follows⟩
  -- The second of two dots would have to be the colon if the name were a single dot.
  cases name with
  | nil => simp at dots
  | cons d name => exact noDots (by simpa using dots)

theorem flag_scan_word_iff (word : IsWord w) :
    flag.scan w = some (l, rest) ↔ l = w ∧ rest = [] ∧ IsFlagWord w := by
  constructor
  · intro scanned
    obtain ⟨c, name, rfl, start, inside, rfl⟩ := flag_scan_eq_some scanned
    obtain ⟨-, ends⟩ := before_eq_some.1 scanned
    obtain rfl := eq_nil_of_endsValue word (endsValue_of_endsWord ends)
    rw [List.append_nil]
    exact ⟨rfl, rfl, c, name, rfl, start, inside⟩
  · rintro ⟨rfl, rfl, c, name, rfl, start, inside⟩
    have body : flag.body ('-' :: c :: name) = some ('-' :: c :: name, []) := by
      simp [Terminal.body, seq, one, start, many, List.takeWhile_eq_self_iff.2 inside,
        List.dropWhile_eq_nil_iff.2 inside]
    exact before_eq_some.2 ⟨body, rfl⟩

theorem mark_scan_word {t : Terminal} {c : Char} (mark : t.mark? = some c) (word : IsWord w)
    (nonempty : w ≠ []) : t.scan w = none := by
  obtain ⟨d, tail, rfl⟩ := List.exists_cons_of_ne_nil nonempty
  obtain ⟨-, -, opening, closing, comma⟩ := word d List.mem_cons_self
  refine mark_scan_of_ne mark ?_ tail
  rintro rfl
  have marks := mem_of_mark mark
  simp [opening, closing, comma] at marks

end Terminal

namespace Item
open Terminal

variable {sought : Terminal → Bool} {w : List Char}

/-! ## The first terminal that reads a word -/

/-- A terminal is found if those that are tried before it fail. -/
theorem firstScan_filter_of_scan {t : Terminal} {cs l rest : List Char} (looked : sought t = true)
    (found : t.scan cs = some (l, rest))
    (fails : ∀ u : Terminal, u.Before t → sought u = true → u.scan cs = none) :
    firstScan (byPriority.filter sought) cs = some (t, l, rest) := by
  obtain ⟨earlier, later, split, before⟩ := cut_byPriority t
  refine firstScan_eq_some_iff.2 ⟨earlier.filter sought, later.filter sought, ?_, ?_, found⟩
  · rw [split, List.filter_append, List.filter_cons_of_pos looked]
  · intro u member
    obtain ⟨among, sought⟩ := List.mem_filter.1 member
    exact fails u (before u among) sought

/-- A word that can be a value is found to be of its kind, where it is no keyword and no flag. -/
theorem firstScan_value {form : Scalar} (word : IsWord w) (value : IsValueWord w)
    (kind : form.IsKindOf w) (looked : sought (.scalar form) = true)
    (other : ∀ u ∈ [Terminal.key, Terminal.flag], sought u = true → u.scan w = none) :
    firstScan (byPriority.filter sought) w = some (.scalar form, w, []) := by
  refine firstScan_filter_of_scan looked (scan_of_isKindOf word value kind) fun u before asked => ?_
  cases u with
  | key => exact other .key (by simp) asked
  | flag => exact other .flag (by simp) asked
  | scalar rival =>
    refine scan_of_ne_kind word kind ?_ ?_
    · rintro rfl
      exact before.ne rfl
    · rintro rfl
      cases form <;> exact absurd before (by decide)
  | openBracket => exact mark_scan_word rfl word value.1
  | closeBracket => exact mark_scan_word rfl word value.1
  | comma => exact mark_scan_word rfl word value.1

/-- Nothing is found in a word that is neither a value nor a keyword nor a flag. -/
theorem firstScan_none (word : IsWord w) (nonempty : w ≠ []) (noValue : ¬ IsValueWord w)
    (other : ∀ u ∈ [Terminal.key, Terminal.flag], sought u = true → u.scan w = none) :
    firstScan (byPriority.filter sought) w = none := by
  refine firstScan_eq_none_iff.2 fun t member => ?_
  have asked := (List.mem_filter.1 member).2
  cases t with
  | key => exact other .key (by simp) asked
  | flag => exact other .flag (by simp) asked
  | scalar form => exact scan_of_not_isValueWord word nonempty noValue
  | openBracket => exact mark_scan_word rfl word nonempty
  | closeBracket => exact mark_scan_word rfl word nonempty
  | comma => exact mark_scan_word rfl word nonempty

/-! ## Reading the last word of a line -/

variable {s next : State} {here : Position} {t : Terminal} {items : List Item}

theorem readFrom_lastWord
    (found : firstScan (byPriority.filter s.seeks) w = some (t, w, []))
    (shifted : s.shift t (.read t w here) = some next) (done : next.items? = some items) :
    readFrom State.seeks s here w = .ok items := by
  have whole : firstScan (byPriority.filter s.seeks) (w ++ []) = some (t, w, []) := by
    rwa [List.append_nil]
  obtain ⟨visible, noGap⟩ := skipBlanks_of_firstScan whole []
  rw [List.append_nil] at visible noGap
  have found' : firstScan (byPriority.filter s.seeks) (skipBlanks w) = some (t, w, []) := by
    rwa [visible]
  have shifted' : s.shift t (.read t w (here.advance (w.takeWhile isBlank))) = some next := by
    rwa [noGap, Position.advance_nil]
  rw [readFrom_shift found' shifted', readFrom_end rfl, done]

theorem readFrom_unreadWord (word : IsWord w) (nonempty : w ≠ [])
    (missing : firstScan (byPriority.filter s.seeks) w = none) :
    readFrom State.seeks s here w = .error (unread (byPriority.filter s.seeks) here w) := by
  obtain ⟨c, tail, rfl⟩ := List.exists_cons_of_ne_nil nonempty
  have first : isBlank c = false := (word c List.mem_cons_self).1
  have visible : skipBlanks (c :: tail) = c :: tail := by simp [skipBlanks, first]
  have noGap : here.advance ((c :: tail).takeWhile isBlank) = here := by
    simp [first, Position.advance_nil]
  rw [readFrom_unread (visible.symm ▸ nonempty) (visible.symm ▸ missing), visible, noGap]

/-- Where nothing can be read is where the error is. -/
theorem offset_unread (sought : List Terminal) (here : Position) (cs : List Char) (text : String) :
    ((unread sought here cs).toError text).offset = here.offset := by
  unfold unread
  split <;> rfl

end Item

namespace Tree
open Terminal

/-! ## Lines -/

/-- A keyword with a value of one token. -/
def keywordWord (name rest : List Char) (form : Scalar) : Tree :=
  node (.rule .command) [node (.rule .keyword) [leaf (.read .key (name ++ [':']) .start),
    ofPhrase (.scalar form (.read (.scalar form) rest (Position.start.advance (name ++ [':']))))]]

/-- One value of one token. -/
def valueWord (w : List Char) (form : Scalar) : Tree :=
  node (.rule .command) [ofPhrase (.scalar form (.read (.scalar form) w .start))]

/-- One flag. -/
def flagWord (w : List Char) : Tree :=
  node (.rule .command) [node (.rule .flag) [leaf (.read .flag w .start)]]

variable {text : String} {name rest : List Char} {form : Scalar}

theorem parse_of_rejection {rejection : Rejection}
    (rejected : Item.ofText text.toList = .error rejection) :
    parse text = .error (rejection.toError text) := by
  rw [parse, rejected]

theorem parse_keywordWord (word : IsWord text.toList) (named : NamesValue text.toList name rest) :
    (∀ form : Scalar, IsValueWord rest → form.IsKindOf rest →
      parse text = .ok (keywordWord name rest form)) ∧
    (¬ IsValueWord rest → ∃ error, parse text = .error error ∧ error.offset = name.length + 1) := by
  have behind := Item.ofText_keyword (named.isName word) (noSlashes_iff.2 named.noSlashes)
  rw [← named.split] at behind
  have word' : IsWord rest := fun c member => word c (by simp [named.split, member])
  have noItem (u : Terminal) (other : u ∈ [Terminal.key, Terminal.flag])
      (asked : State.startsValue u = true) : u.scan rest = none := by
    rcases List.mem_pair.1 other with rfl | rfl <;> cases asked
  have place : (Position.start.advance (name ++ [':'])).offset = name.length + 1 := by
    rw [Position.offset_start_advance, List.length_append, List.length_singleton]
  constructor
  · intro form value kind
    have found := Item.firstScan_value word' value kind rfl noItem
    refine parse_eq_ok_iff.2 ⟨[.keyword (.read .key (name ++ [':']) .start) (.scalar form
      (.read (.scalar form) rest (Position.start.advance (name ++ [':']))))], ?_, rfl⟩
    rw [behind]
    exact Item.readFrom_lastWord found rfl rfl
  · intro noValue
    by_cases nothing : rest = []
    · subst nothing
      rw [Item.readFrom_end rfl] at behind
      refine ⟨_, parse_of_rejection behind, ?_⟩
      show text.length = name.length + 1
      rw [← String.length_toList, named.split, List.length_append, List.length_singleton]
    · have missing : Item.firstScan (byPriority.filter State.startsValue) rest = none :=
        Item.firstScan_none word' nothing noValue noItem
      have rejected := behind.trans (Item.readFrom_unreadWord word' nothing missing)
      exact ⟨_, parse_of_rejection rejected, (Item.offset_unread _ _ _ _).trans place⟩

/-- A word that can be a value is one, unless it is a keyword. -/
theorem parse_valueWord (word : IsWord text.toList) (value : IsValueWord text.toList)
    (kind : form.IsKindOf text.toList) (noKey : Terminal.key.scan text.toList = none) :
    parse text = .ok (valueWord text.toList form) := by
  have noFlag := flag_scan_eq_none (scan_of_isKindOf word value kind)
  have found := Item.firstScan_value word value kind (rfl : State.startsItem (.scalar form) = true)
    (by simp [noKey, noFlag])
  refine parse_eq_ok_iff.2
    ⟨[.value (.scalar form (.read (.scalar form) text.toList .start))], ?_, rfl⟩
  exact Item.readFrom_lastWord found rfl rfl

theorem parse_flagWord (word : IsWord text.toList) (flagged : IsFlagWord text.toList)
    (noKey : Terminal.key.scan text.toList = none) :
    parse text = .ok (flagWord text.toList) := by
  have found : Item.firstScan (byPriority.filter State.startsItem) text.toList =
      some (.flag, text.toList, []) :=
    Item.firstScan_filter_of_scan rfl ((flag_scan_word_iff word).2 ⟨rfl, rfl, flagged⟩)
      fun u before _ => eq_key_of_before_flag before ▸ noKey
  refine parse_eq_ok_iff.2 ⟨[.flag (.read .flag text.toList .start)], ?_, rfl⟩
  exact Item.readFrom_lastWord found rfl rfl

/-- A word that is neither a value nor a keyword nor a flag is rejected at its beginning. -/
theorem parse_noWord (word : IsWord text.toList) (nonempty : text.toList ≠ [])
    (noKey : Terminal.key.scan text.toList = none) (noFlag : ¬ IsFlagWord text.toList)
    (noValue : ¬ IsValueWord text.toList) :
    ∃ error, parse text = .error error ∧ error.offset = 0 := by
  have noFlag' : Terminal.flag.scan text.toList = none := by
    cases scanned : Terminal.flag.scan text.toList with
    | none => rfl
    | some found => exact absurd ((flag_scan_word_iff word).1 scanned).2.2 noFlag
  have missing : Item.firstScan (byPriority.filter State.startsItem) text.toList = none :=
    Item.firstScan_none word nonempty noValue (by simp [noKey, noFlag'])
  have rejected : Item.ofText text.toList = .error _ :=
    Item.readFrom_unreadWord (s := .initial) word nonempty missing
  exact ⟨_, parse_of_rejection rejected, Item.offset_unread _ _ _ _⟩

theorem key_scan_eq_none (h : ∀ name rest, ¬ NamesValue text.toList name rest) :
    Terminal.key.scan text.toList = none := by
  cases scanned : Terminal.key.scan text.toList with
  | none => rfl
  | some found => exact absurd (namesValue_of_scan scanned) (h _ _)

/-- A word is never more than one item. -/
theorem exists_child_of_word (word : IsWord text.toList) (nonempty : text.toList ≠ []) {tree : Tree}
    (parsed : parse text = .ok tree) : ∃ child, tree = node (.rule .command) [child] := by
  by_cases named : ∃ name rest, NamesValue text.toList name rest
  · obtain ⟨name, rest, named⟩ := named
    obtain ⟨accepted, rejected⟩ := parse_keywordWord word named
    by_cases value : IsValueWord rest
    · obtain ⟨form, kind, -⟩ := Scalar.existsUnique_isKindOf rest
      obtain rfl := Except.ok.inj (parsed.symm.trans (accepted form value kind))
      exact ⟨_, rfl⟩
    · obtain ⟨error, said, -⟩ := rejected value
      cases parsed.symm.trans said
  · have noKey : Terminal.key.scan text.toList = none := key_scan_eq_none (by simpa using named)
    by_cases value : IsValueWord text.toList
    · obtain ⟨form, kind, -⟩ := Scalar.existsUnique_isKindOf text.toList
      obtain rfl := Except.ok.inj (parsed.symm.trans (parse_valueWord word value kind noKey))
      exact ⟨_, rfl⟩
    by_cases flagged : IsFlagWord text.toList
    · obtain rfl := Except.ok.inj (parsed.symm.trans (parse_flagWord word flagged noKey))
      exact ⟨_, rfl⟩
    · obtain ⟨error, said, -⟩ := parse_noWord word nonempty noKey flagged value
      cases parsed.symm.trans said

/-- What a line of one word is. The kind of a word is the form that it has, of which there is one
at most, or that of a bareword. A name and the word's first colon make a keyword with what stands
behind the colon, if that can be a value. A word with a dash before it is a flag, a number or a
range of numbers. Every other word is one value, and no word is more than one item. -/
theorem parse_word (word : IsWord text.toList) (nonempty : text ≠ "") :
    (∀ cs : List Char, ∃! form : Scalar, form.IsKindOf cs) ∧
    (∀ name rest, NamesValue text.toList name rest →
      (∀ form : Scalar, IsValueWord rest → form.IsKindOf rest →
        parse text = .ok (keywordWord name rest form)) ∧
      (¬ IsValueWord rest →
        ∃ error, parse text = .error error ∧ error.offset = name.length + 1)) ∧
    ((∀ name rest, ¬ NamesValue text.toList name rest) →
      (text.toList.head? = some '-' →
        (IsFlagWord text.toList → parse text = .ok (flagWord text.toList)) ∧
        (∀ form : Scalar, IsValueWord text.toList → form.IsKindOf text.toList →
          parse text = .ok (valueWord text.toList form)) ∧
        (¬ IsFlagWord text.toList → ¬ IsValueWord text.toList →
          ∃ error, parse text = .error error ∧ error.offset = 0)) ∧
      (text.toList.head? ≠ some '-' → ∀ form : Scalar, form.IsKindOf text.toList →
        parse text = .ok (valueWord text.toList form))) ∧
    ∀ tree, parse text = .ok tree → ∃ child, tree = node (.rule .command) [child] := by
  have nonempty' : text.toList ≠ [] := by simpa using nonempty
  refine ⟨Scalar.existsUnique_isKindOf, fun name rest named => parse_keywordWord word named,
    fun unnamed => ?_, fun tree parsed => exists_child_of_word word nonempty' parsed⟩
  have noKey := key_scan_eq_none unnamed
  refine ⟨fun _ => ⟨fun flagged => ?_, fun form value kind => ?_, fun noFlag noValue => ?_⟩,
    fun noDash form kind => ?_⟩
  · exact parse_flagWord word flagged noKey
  · exact parse_valueWord word value kind noKey
  · exact parse_noWord word nonempty' noKey noFlag noValue
  · exact parse_valueWord word ⟨nonempty', .inl noDash⟩ kind noKey

theorem parse_word_keyword :
    parse "k//:-1e+5" = .ok (keywordWord "k//".toList "-1e+5".toList .float) ∧
      ∃ error, parse "k//:-..5" = .error error ∧ error.offset = 4 := by
  have digit (c : Char) (h : isAsciiDigit c = true) : Numeral.IsDigits [c] :=
    ⟨by simp, List.forall_mem_singleton.2 h⟩
  have exponent : Scalar.float.HasForm "-1e+5".toList :=
    ⟨"-1".toList, [], "e+5".toList, rfl, .negative (digit '1' rfl), .inl rfl,
      .inr ⟨'e', "+5".toList, rfl, rfl, digit '5' rfl⟩, by decide⟩
  have dash : ¬ IsValueWord "-..5".toList := by
    rintro ⟨-, noDash | ⟨form, number, formed⟩⟩
    · exact noDash rfl
    · have only : Scalar.formOf "-..5".toList = .bool := rfl
      obtain rfl := only.symm.trans formed.formOf_eq
      exact absurd number (by decide)
  have word : IsWord "k//:-1e+5".toList := by decide
  have word' : IsWord "k//:-..5".toList := by decide
  have split : NamesValue "k//:-1e+5".toList "k//".toList "-1e+5".toList :=
    ⟨rfl, by decide, by decide, by decide, by decide, by decide⟩
  have split' : NamesValue "k//:-..5".toList "k//".toList "-..5".toList :=
    ⟨rfl, by decide, by decide, by decide, by decide, by decide⟩
  obtain ⟨-, accepted, -⟩ := parse_word word (by decide)
  obtain ⟨-, rejected, -⟩ := parse_word word' (by decide)
  exact ⟨(accepted _ _ split).1 .float ⟨by decide, .inr ⟨.float, by decide, exponent⟩⟩
    (.inl exponent), (rejected _ _ split').2 dash⟩

end Tree

end CommandLine
