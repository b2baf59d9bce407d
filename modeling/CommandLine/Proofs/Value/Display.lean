import CommandLine.Proofs.Numeral.WrittenDouble
import CommandLine.Proofs.Text.Quoting
import CommandLine.Value

/-!
# Values are read off what is shown

A value that is shown tells where it ends and what it is, whatever stands behind it
(`display_append_inj`), and it keeps to one line. The kind of the value ends at the first bracket.
Numbers end at a comma or a bracket, for they hold none; strings end at their own quote; and lists
are taken apart item by item.
-/

namespace CommandLine.Value
open CommandLine.Numeral CommandLine.Text

/-- What stands before the first occurrence of a mark is read off what goes on with the mark. -/
theorem append_cons_inj {α : Type} {mark : α} {xs ys r s : List α} (hx : mark ∉ xs)
    (hy : mark ∉ ys) (same : xs ++ mark :: r = ys ++ mark :: s) : xs = ys ∧ r = s := by
  induction xs generalizing ys with
  | nil =>
    cases ys with
    | nil => exact ⟨rfl, (List.cons.inj same).2⟩
    | cons y ys =>
      obtain ⟨rfl, -⟩ := List.cons.inj same
      exact absurd List.mem_cons_self hy
  | cons x xs ih =>
    cases ys with
    | nil =>
      obtain ⟨rfl, -⟩ := List.cons.inj same
      exact absurd List.mem_cons_self hx
    | cons y ys =>
      obtain ⟨rfl, rest⟩ := List.cons.inj same
      obtain ⟨rfl, rfl⟩ := ih (fun mem => hx (List.mem_cons_of_mem _ mem))
        (fun mem => hy (List.mem_cons_of_mem _ mem)) rest
      exact ⟨rfl, rfl⟩

/-! ## Numbers -/

theorem mem_decimalChars {n : Int} {c : Char} (h : c ∈ decimalChars n) :
    isAsciiDigit c = true ∨ c = '-' := by
  cases n with
  | ofNat n => exact .inl ((isDigits_digits n).2 c h)
  | negSucc n =>
    rcases List.mem_cons.1 h with minus | digit
    · exact .inr minus
    · exact .inl ((isDigits_digits _).2 c digit)

theorem not_mem_decimalChars {c : Char} (digit : isAsciiDigit c = false) (minus : c ≠ '-')
    (n : Int) : c ∉ decimalChars n := by
  intro mem
  rcases mem_decimalChars mem with is | is
  · simp [digit] at is
  · exact minus is

theorem decimalChars_inj {m n : Int} (same : decimalChars m = decimalChars n) : m = n := by
  rw [← valueOf_decimalChars m, same, valueOf_decimalChars]

theorem not_mem_text {c : Char} (digit : isAsciiDigit c = false) (other : c ∉ "-+.eEinfa".toList)
    (x : Double) : c ∉ x.text.toList := by
  intro mem
  rcases Double.mem_text mem with is | is
  · simp [digit] at is
  · exact other is

/-! ## Parts of what is shown -/

/-- What is shown of the items behind the first one of a list, up to the bracket. -/
def others : List Value → List Char
  | [] => [')']
  | x :: xs => ',' :: ' ' :: (display x).toList ++ others xs

/-- What is shown of the items of a list. A single one has a comma behind it. -/
def inside : List Value → List Char
  | [] => [')']
  | [x] => (display x).toList ++ [',', ')']
  | x :: y :: xs => (display x).toList ++ others (y :: xs)

/-- What is shown between the brackets behind the kind of a value. -/
def fields : Value → List Char
  | string s => "value=".toList ++ quoteChars s.toList
  | bool b => "value=".toList ++ (boolText b).toList
  | int n => "value=".toList ++ decimalChars n
  | float x => "value=".toList ++ x.text.toList
  | list items => "items=(".toList ++ inside items
  | range first beyond =>
    "start=".toList ++ decimalChars first ++ ", end=".toList ++ decimalChars beyond

theorem intercalate_append_eq (x : Value) (xs : List Value) :
    [',', ' '].intercalate (((x :: xs).map display).map String.toList) ++ [')'] =
      (display x).toList ++ others xs := by
  induction xs generalizing x with
  | nil => simp [others]
  | cons y ys ih =>
    rw [List.map_cons, List.map_cons, List.map_cons, List.map_cons, List.intercalate_cons_cons,
      List.append_assoc, List.append_assoc, ← List.map_cons, ← List.map_cons, ih, others]
    rfl

theorem toList_tupleText (items : List Value) :
    (tupleText (displayAll items)).toList = '(' :: inside items := by
  have shown : displayAll items = items.map display := by
    induction items with
    | nil => rfl
    | cons x xs ih => exact congrArg (display x :: ·) ih
  rw [shown]
  rcases items with - | ⟨x, - | ⟨y, ys⟩⟩
  · rfl
  · simp [tupleText, inside]
  · have parts := intercalate_append_eq x (y :: ys)
    show ("(" ++ ", ".intercalate ((x :: y :: ys).map display) ++ ")").toList = _
    rw [inside, ← parts]
    simp

/-- A value is shown as its kind, and its fields between brackets. -/
theorem toList_display (v : Value) :
    (display v).toList = v.kind.toList ++ '(' :: (fields v ++ [')']) := by
  cases v with
  | string s =>
    show ("StringValue(value=" ++ quote s ++ ")").toList =
      "StringValue".toList ++ '(' :: ("value=".toList ++ quoteChars s.toList ++ [')'])
    simp [quote]
  | bool b =>
    show ("BoolValue(value=" ++ boolText b ++ ")").toList =
      "BoolValue".toList ++ '(' :: ("value=".toList ++ (boolText b).toList ++ [')'])
    simp
  | int n =>
    show ("IntValue(value=" ++ decimal n ++ ")").toList =
      "IntValue".toList ++ '(' :: ("value=".toList ++ decimalChars n ++ [')'])
    simp [decimal]
  | float x =>
    show ("FloatValue(value=" ++ x.text ++ ")").toList =
      "FloatValue".toList ++ '(' :: ("value=".toList ++ x.text.toList ++ [')'])
    simp
  | list items =>
    show ("ListValue(items=" ++ tupleText (displayAll items) ++ ")").toList =
      "ListValue".toList ++ '(' :: ("items=(".toList ++ inside items ++ [')'])
    simp [toList_tupleText]
  | range first beyond =>
    show ("RangeValue(start=" ++ decimal first ++ ", end=" ++ decimal beyond ++ ")").toList =
      "RangeValue".toList ++ '(' :: ("start=".toList ++ decimalChars first ++ ", end=".toList ++
        decimalChars beyond ++ [')'])
    simp [decimal]

/-! ## Reading off -/

/-- What begins as the value is shown begins as no other one. -/
def Determined (v : Value) : Prop :=
  ∀ (w : Value) (r s : List Char), (display v).toList ++ r = (display w).toList ++ s →
    v = w ∧ r = s

theorem append_label_cancel (label : List Char) {x y r s : List Char}
    (same : label ++ x ++ r = label ++ y ++ s) : x ++ r = y ++ s := by
  rw [List.append_assoc, List.append_assoc] at same
  exact List.append_cancel_left same

/-- The kind of a value ends at the first bracket. -/
theorem kind_eq {v w : Value} {r s : List Char}
    (same : (display v).toList ++ r = (display w).toList ++ s) :
    v.kind = w.kind ∧ fields v ++ ')' :: r = fields w ++ ')' :: s := by
  have plain (v : Value) : '(' ∉ v.kind.toList := by cases v <;> simp [kind]
  rw [toList_display, toList_display] at same
  simp only [List.append_assoc, List.cons_append, List.nil_append] at same
  obtain ⟨kinds, rest⟩ := append_cons_inj (plain v) (plain w) same
  exact ⟨String.toList_inj.1 kinds, rest⟩

theorem determined_string (a : String) : Determined (string a) := by
  intro w r s same
  obtain ⟨kinds, parts⟩ := kind_eq same
  cases w with
  | string b =>
    have text : quoteChars a.toList ++ ')' :: r = quoteChars b.toList ++ ')' :: s :=
      append_label_cancel "value=".toList parts
    obtain ⟨content, rest⟩ := quoteChars_append_inj text
    exact ⟨congrArg string (String.toList_inj.1 content), (List.cons.inj rest).2⟩
  | _ => exact absurd kinds (by simp [kind])

theorem determined_bool (a : Bool) : Determined (bool a) := by
  intro w r s same
  obtain ⟨kinds, parts⟩ := kind_eq same
  cases w with
  | bool b =>
    have text : (boolText a).toList ++ ')' :: r = (boolText b).toList ++ ')' :: s :=
      append_label_cancel "value=".toList parts
    cases a <;> cases b <;> simp_all [boolText]
  | _ => exact absurd kinds (by simp [kind])

theorem determined_int (m : Int) : Determined (int m) := by
  intro w r s same
  obtain ⟨kinds, parts⟩ := kind_eq same
  cases w with
  | int n =>
    have text : decimalChars m ++ ')' :: r = decimalChars n ++ ')' :: s :=
      append_label_cancel "value=".toList parts
    obtain ⟨digits, rest⟩ := append_cons_inj (not_mem_decimalChars rfl (by decide) m)
      (not_mem_decimalChars rfl (by decide) n) text
    exact ⟨congrArg int (decimalChars_inj digits), rest⟩
  | _ => exact absurd kinds (by simp [kind])

theorem determined_float (x : Double) : Determined (float x) := by
  intro w r s same
  obtain ⟨kinds, parts⟩ := kind_eq same
  cases w with
  | float y =>
    have text : x.text.toList ++ ')' :: r = y.text.toList ++ ')' :: s :=
      append_label_cancel "value=".toList parts
    obtain ⟨digits, rest⟩ := append_cons_inj (not_mem_text rfl (by decide) x)
      (not_mem_text rfl (by decide) y) text
    exact ⟨congrArg float (Double.text_injective (String.toList_inj.1 digits)), rest⟩
  | _ => exact absurd kinds (by simp [kind])

theorem determined_range (a b : Int) : Determined (range a b) := by
  intro w r s same
  obtain ⟨kinds, parts⟩ := kind_eq same
  cases w with
  | range c d =>
    have text : "start=".toList ++ decimalChars a ++ ", end=".toList ++ decimalChars b ++ ')' :: r =
        "start=".toList ++ decimalChars c ++ ", end=".toList ++ decimalChars d ++ ')' :: s := parts
    simp only [List.append_assoc] at text
    obtain ⟨first, text⟩ := append_cons_inj (not_mem_decimalChars rfl (by decide) a)
      (not_mem_decimalChars rfl (by decide) c) (List.append_cancel_left text)
    obtain ⟨beyond, rest⟩ := append_cons_inj (not_mem_decimalChars rfl (by decide) b)
      (not_mem_decimalChars rfl (by decide) d) (List.append_cancel_left text)
    exact ⟨by rw [decimalChars_inj first, decimalChars_inj beyond], rest⟩
  | _ => exact absurd kinds (by simp [kind])

/-- No value is shown as what closes a list. -/
theorem display_ne_close (v : Value) (r s : List Char) : (display v).toList ++ r ≠ ')' :: s := by
  rw [toList_display]
  cases v <;> simp [kind]

theorem others_append_inj {xs ys : List Value} (each : ∀ x ∈ xs, Determined x) {r s : List Char}
    (same : others xs ++ r = others ys ++ s) : xs = ys ∧ r = s := by
  induction xs generalizing ys with
  | nil =>
    cases ys with
    | nil => exact ⟨rfl, List.append_cancel_left same⟩
    | cons y ys => simp [others] at same
  | cons x xs ih =>
    cases ys with
    | nil => simp [others] at same
    | cons y ys =>
      obtain ⟨first, later⟩ := List.forall_mem_cons.1 each
      simp only [others, List.cons_append, List.append_assoc, List.cons.injEq, true_and] at same
      obtain ⟨rfl, tail⟩ := first y _ _ same
      obtain ⟨rfl, rest⟩ := ih later tail
      exact ⟨rfl, rest⟩

theorem inside_append_inj {xs ys : List Value} (each : ∀ x ∈ xs, Determined x) {r s : List Char}
    (same : inside xs ++ r = inside ys ++ s) : xs = ys ∧ r = s := by
  -- Behind its first item a list goes on with a comma and a bracket, or a comma and a blank.
  rcases xs with - | ⟨x, - | ⟨x', xs⟩⟩ <;> rcases ys with - | ⟨y, - | ⟨y', ys⟩⟩ <;>
    simp only [inside, List.append_assoc] at same
  · exact ⟨rfl, List.append_cancel_left same⟩
  · exact absurd same.symm (display_ne_close _ _ _)
  · exact absurd same.symm (display_ne_close _ _ _)
  · exact absurd same (display_ne_close _ _ _)
  · obtain ⟨rfl, rest⟩ := each x List.mem_cons_self _ _ _ same
    exact ⟨rfl, List.append_cancel_left rest⟩
  · obtain ⟨-, rest⟩ := each x List.mem_cons_self _ _ _ same
    simp [others] at rest
  · exact absurd same (display_ne_close _ _ _)
  · obtain ⟨-, rest⟩ := each x List.mem_cons_self _ _ _ same
    simp [others] at rest
  · obtain ⟨first, later⟩ := List.forall_mem_cons.1 each
    obtain ⟨rfl, rest⟩ := first _ _ _ same
    obtain ⟨tail, rest⟩ := others_append_inj later rest
    exact ⟨congrArg (x :: ·) tail, rest⟩

theorem determined_list {xs : List Value} (each : ∀ x ∈ xs, Determined x) :
    Determined (list xs) := by
  intro w r s same
  obtain ⟨kinds, parts⟩ := kind_eq same
  cases w with
  | list ys =>
    have text : inside xs ++ ')' :: r = inside ys ++ ')' :: s :=
      append_label_cancel "items=(".toList parts
    obtain ⟨rfl, rest⟩ := inside_append_inj each text
    exact ⟨rfl, (List.cons.inj rest).2⟩
  | _ => exact absurd kinds (by simp [kind])

/-- What begins as a value is shown begins as no other one. -/
theorem determined : ∀ v : Value, Determined v
  | string a => determined_string a
  | bool a => determined_bool a
  | int m => determined_int m
  | float x => determined_float x
  | range a b => determined_range a b
  | list items => determined_list fun x _ => determined x

/-! ## One line -/

theorem newline_not_mem_others {xs : List Value} (each : ∀ x ∈ xs, '\n' ∉ (display x).toList) :
    '\n' ∉ others xs := by
  induction xs with
  | nil => decide
  | cons x xs ih =>
    obtain ⟨first, later⟩ := List.forall_mem_cons.1 each
    simp [others, first, ih later]

theorem newline_not_mem_inside {xs : List Value} (each : ∀ x ∈ xs, '\n' ∉ (display x).toList) :
    '\n' ∉ inside xs := by
  rcases xs with - | ⟨x, - | ⟨y, ys⟩⟩
  · decide
  · simp [inside, each x]
  · obtain ⟨first, later⟩ := List.forall_mem_cons.1 each
    rw [inside, List.mem_append, not_or]
    exact ⟨first, newline_not_mem_others later⟩

theorem newline_not_mem_of_fields {v : Value} (h : '\n' ∉ fields v) :
    '\n' ∉ (display v).toList := by
  have plain : '\n' ∉ v.kind.toList := by cases v <;> simp [kind]
  simp [toList_display, plain, h]

/-- A value is shown on one line. -/
theorem newline_not_mem_display (v : Value) : '\n' ∉ (display v).toList := by
  have number (n : Int) : '\n' ∉ decimalChars n := not_mem_decimalChars rfl (by decide) n
  apply newline_not_mem_of_fields
  cases v with
  | string s =>
    show '\n' ∉ "value=".toList ++ quoteChars s.toList
    simp [newline_not_mem_quoteChars]
  | bool b => cases b <;> decide
  | int n =>
    show '\n' ∉ "value=".toList ++ decimalChars n
    simp [number]
  | float x =>
    have text : '\n' ∉ x.text.toList := not_mem_text rfl (by decide) x
    show '\n' ∉ "value=".toList ++ x.text.toList
    simp [text]
  | list items =>
    show '\n' ∉ "items=(".toList ++ inside items
    have each : '\n' ∉ inside items :=
      newline_not_mem_inside fun x _ => newline_not_mem_display x
    simp [each]
  | range a b =>
    show '\n' ∉ "start=".toList ++ decimalChars a ++ ", end=".toList ++ decimalChars b
    simp [number]

end CommandLine.Value
