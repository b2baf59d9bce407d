import CommandLine.Proofs.Command.Literal
import CommandLine.Proofs.Tree.ValuePosition
import Mathlib.Data.Set.Function
import Mathlib.Order.Bounds.Defs

/-!
# Quoted strings and what they stand for

A quoted string ends at the first quote that no backslash precedes directly
(`Terminal.quoted_scan_eq_some_iff`). Taking off the outer quotes and the backslashes before inner
ones is one-to-one from the texts that are read as quoted strings onto the strings that do not end
in a backslash, and writing a string between quotes undoes it (`Tree.bijOn_decoded`).
-/

namespace CommandLine
open CommandLine.Text

namespace Terminal

/-! ## The inside of quotes, decoded and written again -/

/-- What can stand between quotes comes back when it is decoded and escaped again: each of its
quotes has one backslash before it to lose and to gain. -/
theorem escapeQuotes_unescapeQuotes {cs : List Char} {afterBackslash : Bool}
    (h : Inside afterBackslash cs) (apart : afterBackslash = true → cs.head? ≠ some '"') :
    escapeQuotes (unescapeQuotes cs) = cs := by
  fun_induction unescapeQuotes cs generalizing afterBackslash with
  | case1 cs ih =>
    obtain ⟨-, -, tail⟩ := h
    rw [escapeQuotes, if_pos rfl, ih tail (by simp)]
  | case2 c cs unescaped ih =>
    obtain ⟨first, tail⟩ := h
    have plain : c ≠ '"' := by
      rintro rfl
      exact apart (first rfl) rfl
    rw [escapeQuotes, if_neg plain]
    refine congrArg (c :: ·) (ih tail fun backslash quote => ?_)
    obtain ⟨rest, rfl⟩ := List.head?_eq_some_iff.1 quote
    exact unescaped rest (beq_iff_eq.1 backslash) rfl
  | case3 => rfl

theorem decodeString_between (body : List Char) :
    decodeString ('"' :: body ++ ['"']) = unescapeQuotes body := by
  simp [decodeString]

/-! ## The closing quote -/

/-- The places of a text behind its first character at which a quote stands that no backslash
precedes directly. -/
def closings (cs : List Char) : Set Nat :=
  {i | 1 ≤ i ∧ cs[i]? = some '"' ∧ cs[i - 1]? ≠ some '\\'}

theorem isLeast_closings_cons {c d : Char} {cs : List Char} {n : Nat} :
    IsLeast (closings (c :: d :: cs)) (n + 2) ↔
      (d = '"' → c = '\\') ∧ IsLeast (closings (d :: cs)) (n + 1) := by
  have here : 1 ∈ closings (c :: d :: cs) ↔ ¬ (d = '"' → c = '\\') := by simp [closings]
  have later (i : Nat) : i + 2 ∈ closings (c :: d :: cs) ↔ i + 1 ∈ closings (d :: cs) := by
    simp [closings]
  have positive {ds : List Char} : 0 ∉ closings ds := fun member => absurd member.1 (by decide)
  constructor
  · rintro ⟨member, least⟩
    refine ⟨by_contra fun closes => ?_, (later n).1 member, fun i mem => ?_⟩
    · have := least (here.2 closes)
      omega
    · cases i with
      | zero => exact absurd mem positive
      | succ i =>
        have := least ((later i).2 mem)
        omega
  · rintro ⟨goesOn, member, least⟩
    refine ⟨(later n).2 member, fun i mem => ?_⟩
    match i with
    | 0 => exact absurd mem positive
    | 1 => exact absurd goesOn (here.1 mem)
    | i + 2 =>
      have := least ((later i).1 mem)
      omega

/-- A text between two quotes is the inside of a quoted string exactly if the second quote is the
first that can close it. -/
theorem isLeast_closings_iff {c : Char} {body rest : List Char} :
    IsLeast (closings (c :: (body ++ '"' :: rest))) (body.length + 1) ↔
      Inside (c == '\\') body := by
  induction body generalizing c with
  | nil =>
    have lower : 1 ∈ lowerBounds (closings (c :: '"' :: rest)) := fun i member => member.1
    have closes : 1 ∈ closings (c :: '"' :: rest) ↔ c ≠ '\\' := by simp [closings]
    simp [IsLeast, Inside, lower, closes]
  | cons d body ih =>
    rw [List.length_cons, List.cons_append, isLeast_closings_cons, ih, Inside, beq_iff_eq]

/-- A quoted string that begins with the text goes as far as the first later quote that no
backslash precedes directly; there is none at all unless a value may end behind that quote. -/
theorem quoted_scan_eq_some_iff {cs l rest : List Char} :
    (scalar .quoted).scan ('"' :: cs) = some (l, rest) ↔
      ∃ i, IsLeast (closings ('"' :: cs)) i ∧ l = ('"' :: cs).take (i + 1) ∧
        rest = ('"' :: cs).drop (i + 1) ∧ endsValue rest = true := by
  rw [scan, Scanner.before_eq_some, quoted_body_eq_some]
  have upTo (body rest : List Char) :
      (body ++ '"' :: rest).take (body.length + 1) = body ++ ['"'] := by
    rw [List.take_append, List.take_of_length_le (Nat.le_succ _), Nat.add_sub_cancel_left]
    rfl
  constructor
  · rintro ⟨⟨body, rfl, inside, split⟩, ends⟩
    obtain rfl : cs = body ++ '"' :: rest := by simpa using split
    exact ⟨body.length + 1, isLeast_closings_iff.2 inside, by simp [upTo], by simp, ends⟩
  · rintro ⟨i, least, rfl, rfl, ends⟩
    obtain ⟨n, rfl⟩ : ∃ n, i = n + 1 := ⟨i - 1, by have := least.1.1; omega⟩
    have quote : cs[n]? = some '"' := least.1.2.1
    obtain ⟨body, rest, rfl, rfl⟩ : ∃ body rest, cs = body ++ '"' :: rest ∧ body.length = n := by
      obtain ⟨short, same⟩ := List.getElem?_eq_some_iff.1 quote
      refine ⟨cs.take n, cs.drop (n + 1), ?_, List.length_take_of_le (Nat.le_of_lt short)⟩
      rw [← same, ← List.drop_eq_getElem_cons short, List.take_append_drop]
    have inside := isLeast_closings_iff.1 least
    exact ⟨⟨body, by simp [upTo], inside, (List.take_append_drop _ _).symm⟩, ends⟩

end Terminal

namespace Tree

/-! ## Texts that are read as quoted strings -/

/-- Between brackets the text is read as a list of one quoted string, whose token is the text. -/
def IsQuoted (text : String) : Prop :=
  ∃ token : Token, token.symbol = .terminal (.scalar .quoted) ∧ token.text = text ∧
    parse ("[" ++ text ++ "]") = .ok (node (.rule .command) [node (.rule .value)
      [node (.rule .list) [node (.rule .value)
        [node (.rule .string) [node (.rule .inner) [leaf token]]]]]])

/-- The string that a quoted one stands for. -/
def decoded (text : String) : String := String.ofList (decodeString text.toList)

/-- A string written between quotes. -/
def encoded (s : String) : String := String.ofList (encodeString s.toList)

theorem ofPhrase_eq_quoted {p : Phrase} {token : Token}
    (h : ofPhrase p =
      node (.rule .value) [node (.rule .string) [node (.rule .inner) [leaf token]]]) :
    p = .scalar .quoted token := by
  cases p with
  | list elements => cases h
  | scalar form token' => cases form <;> cases h; rfl

/-- A text that is read as a quoted string stands between quotes. -/
theorem IsQuoted.exists_inside {text : String} (h : IsQuoted text) :
    ∃ body, text.toList = '"' :: body ++ ['"'] ∧ Terminal.Inside false body := by
  obtain ⟨token, -, rfl, parsed⟩ := h
  obtain ⟨items, read, tree⟩ := parse_eq_ok_iff.1 parsed
  obtain ⟨ps, rfl, element⟩ := ofItems_eq_list tree
  obtain ⟨p, rfl, quoted⟩ := List.map_eq_singleton_iff.1 element
  obtain rfl := ofPhrase_eq_quoted quoted
  obtain ⟨readable, -⟩ := Item.readable_and_layout_of_ofText read
  have reads : token.Reads State.startsValue (.scalar .quoted) :=
    (readable _ (List.mem_singleton.2 rfl)).2.1
  obtain ⟨scanned, -⟩ := Item.follow_of_firstScan reads.2
  obtain ⟨body, same, inside, -⟩ :=
    Terminal.quoted_body_eq_some.1 (Scanner.before_eq_some.1 scanned).1
  exact ⟨body, same, inside⟩

/-- The items of a line that is a list of one quoted string. -/
theorem exists_ofText_of_inside {text : String} {body : List Char}
    (same : text.toList = '"' :: body ++ ['"']) (inside : Terminal.Inside false body) :
    ∃ token : Token, token.symbol = .terminal (.scalar .quoted) ∧ token.text = text ∧
      Item.ofText ("[" ++ text ++ "]").toList = .ok [.value (.list [.scalar .quoted token])] := by
  let word := Value.word .quoted text.toList
  have reads : (Terminal.scalar .quoted).Reads text.toList := same ▸ Terminal.reads_quoted inside
  have readable : (Item.value (.list [word])).Readable :=
    ⟨by simp, Value.readable_word reads rfl, trivial⟩
  have laidOut : Layout ([Item.value (.list [word])].flatMap Item.lexemes)
      ("[" ++ text ++ "]").toList := by
    have blank : Blank [] := by simp [Blank]
    have each : ∀ w ∈ [word], w.Spells text.toList :=
      List.forall_mem_singleton.2 (Value.spells_word .quoted text.toList)
    have spelt := Phrase.spells_list blank each [] [] rfl Layout.nil
    simpa [Item.lexemes, List.intercalate] using spelt
  obtain ⟨items, alike, read⟩ :=
    Item.exists_ofText_of_layout (List.forall_mem_singleton.2 readable) laidOut
  obtain ⟨item, rfl, one⟩ := List.map_eq_singleton_iff.1 alike
  obtain ⟨ps, rfl, elements⟩ := Item.eq_of_unplaced_list one
  obtain ⟨p, rfl, element⟩ := List.map_eq_singleton_iff.1 elements
  have value : (Item.value p).unplaced = (Item.value word).unplaced := congrArg Item.value element
  obtain ⟨token, quoted, written⟩ := Item.eq_of_unplaced_scalar value
  obtain rfl := Item.value.inj quoted
  obtain ⟨readable', -⟩ := Item.readable_and_layout_of_ofText read
  have reads' : token.Reads State.startsValue (.scalar .quoted) :=
    (readable' _ (List.mem_singleton.2 rfl)).2.1
  exact ⟨token, reads'.1, written.trans String.ofList_toList, read⟩

/-- The texts that are read as quoted strings are those between quotes that nothing inside closes,
and each is converted to the string that it stands for. -/
theorem isQuoted_of_inside {text : String} {body : List Char}
    (same : text.toList = '"' :: body ++ ['"']) (inside : Terminal.Inside false body) :
    IsQuoted text ∧ Command.parse ("[" ++ text ++ "]") =
      .ok ⟨[.list [.string (decoded text)]], .empty⟩ := by
  obtain ⟨token, symbol, rfl, read⟩ := exists_ofText_of_inside same inside
  refine ⟨⟨token, symbol, rfl, parse_eq_ok_iff.2 ⟨_, read, rfl⟩⟩, ?_⟩
  refine (Command.parse_eq_ok_iff read).2 ⟨?_, rfl⟩
  simp [Item.literals, Phrase.literals, Phrase.literalsAll, Scalar.literals]

/-! ## The bijection -/

theorem mapsTo_decoded :
    Set.MapsTo decoded {t | IsQuoted t} {s | s.toList.getLast? ≠ some '\\'} := by
  intro text quoted
  obtain ⟨body, same, inside⟩ := quoted.exists_inside
  have last := Terminal.getLast?_unescapeQuotes (Terminal.getLast?_of_inside inside)
  rw [← Terminal.decodeString_between, ← same] at last
  show (decoded text).toList.getLast? ≠ some '\\'
  rwa [decoded, String.toList_ofList]

theorem toList_encoded (s : String) :
    (encoded s).toList = '"' :: escapeQuotes s.toList ++ ['"'] := String.toList_ofList

theorem mapsTo_encoded :
    Set.MapsTo encoded {s | s.toList.getLast? ≠ some '\\'} {t | IsQuoted t} := fun s last =>
  (isQuoted_of_inside (toList_encoded s) (Terminal.inside_escapeQuotes (by simp) last)).1

theorem decoded_encoded (s : String) : decoded (encoded s) = s := by
  rw [decoded, encoded, String.toList_ofList, Value.decodeString_encodeString, String.ofList_toList]

theorem encoded_decoded {text : String} (quoted : IsQuoted text) :
    encoded (decoded text) = text := by
  obtain ⟨body, same, inside⟩ := quoted.exists_inside
  rw [encoded, decoded, String.toList_ofList, same, Terminal.decodeString_between, encodeString,
    Terminal.escapeQuotes_unescapeQuotes inside (by simp), ← same, String.ofList_toList]

/-- Decoding is one-to-one from the texts of quoted strings onto the strings that do not end in a
backslash, writing between quotes is its inverse, and decoding is what the conversion of a line
does with such a text. What text a quoted string has is decided by its first quotes alone: it goes
as far as the first later quote that no backslash precedes directly, if a value may end there. -/
theorem bijOn_decoded :
    Set.BijOn decoded {t | IsQuoted t} {s | s.toList.getLast? ≠ some '\\'} ∧
    Set.InvOn encoded decoded {t | IsQuoted t} {s | s.toList.getLast? ≠ some '\\'} ∧
    (∀ t, IsQuoted t → Command.parse ("[" ++ t ++ "]") =
      .ok ⟨[.list [.string (decoded t)]], .empty⟩) ∧
    ∀ cs l rest : List Char, (Terminal.scalar .quoted).scan ('"' :: cs) = some (l, rest) ↔
      ∃ i, IsLeast {i | 1 ≤ i ∧ ('"' :: cs)[i]? = some '"' ∧ ('"' :: cs)[i - 1]? ≠ some '\\'} i ∧
        l = ('"' :: cs).take (i + 1) ∧ rest = ('"' :: cs).drop (i + 1) ∧
        Terminal.endsValue rest = true := by
  have inverse : Set.InvOn encoded decoded {t | IsQuoted t} {s | s.toList.getLast? ≠ some '\\'} :=
    ⟨fun _ quoted => encoded_decoded quoted, fun s _ => decoded_encoded s⟩
  refine ⟨inverse.bijOn mapsTo_decoded mapsTo_encoded, inverse, fun t quoted => ?_, ?_⟩
  · obtain ⟨body, same, inside⟩ := quoted.exists_inside
    exact (isQuoted_of_inside same inside).2
  · exact fun cs l rest => Terminal.quoted_scan_eq_some_iff

end Tree

end CommandLine
