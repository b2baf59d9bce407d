import CommandLine.Proofs.ParseError.Coordinates

/-!
# What is shown below a message

The part of a line that is shown below a message is cut out of the line of the error around the
error, and the caret stands under the offending character, or behind the part that is shown if the
error is at the end of its line (`ParseError.context_marks`).
-/

namespace CommandLine

namespace Position

variable {cs : List Char} {offset : Nat}

theorem lineStart_add (inside : offset ≤ cs.length) :
    lineStart cs offset + (lineBefore cs offset).length = offset := by
  obtain ⟨above, -, -, -, -, sum⟩ := exists_lineAt inside
  have size : (cs.take offset).length = offset := List.length_take_of_le inside
  rw [lineStart, size, sinceNewline_eq]
  omega

theorem lineEnd_eq (inside : offset ≤ cs.length) :
    lineEnd cs offset = offset + (lineBehind cs offset).length := by
  rw [lineEnd, List.length_take_of_le inside]
  rfl

/-- A window that reaches from an offset to both sides, but not beyond its line, shows the last
characters before the offset in the line and the first ones behind. -/
theorem drop_take_window (inside : offset ≤ cs.length) (span : Nat) :
    (cs.take (min (lineEnd cs offset) (offset + span))).drop
        (max (lineStart cs offset) (offset - span)) =
      (lineBefore cs offset).rtake span ++ (lineBehind cs offset).take span := by
  obtain ⟨above, -, before⟩ := exists_take_eq cs offset
  obtain ⟨rest, behind, -⟩ := exists_drop_eq cs offset
  have start := lineStart_add inside
  have size : (terminated above).length + (lineBefore cs offset).length = offset := by
    rw [← List.length_append, ← before, List.length_take_of_le inside]
  have right : min (lineEnd cs offset) (offset + span) =
      offset + min span (lineBehind cs offset).length := by
    rw [lineEnd_eq inside]
    omega
  have left : max (lineStart cs offset) (offset - span) =
      (terminated above).length + ((lineBefore cs offset).length - span) := by
    omega
  rw [right, left, List.take_add, before, behind, List.append_assoc, ← List.drop_drop,
    List.drop_left, List.drop_append_of_le_length (Nat.sub_le _ _)]
  have short : min span (lineBehind cs offset).length ≤ (lineBehind cs offset).length :=
    Nat.min_le_right _ _
  rw [List.take_append_of_le_length short, List.rtake]
  congr 1
  rw [List.take_eq_take_iff]
  omega

/-- Part of a line and a caret below it mark an offset of a text: the part is cut out of the line of
the offset, around it, and the caret is as far from its beginning as the offset is. -/
structure Marks (cs : List Char) (offset span : Nat) (shown : List Char) (caret : Nat) : Prop where
  cut : ∃ above line below front back, LineAt cs offset above line below ∧
    line = front ++ (shown ++ back) ∧ extent above + (front.length + caret) = offset
  short : shown.length ≤ 2 * span
  near : caret ≤ span ∧ caret ≤ shown.length
  under : ∀ c, cs[offset]? = some c → c ≠ '\n' → caret < shown.length ∧ shown[caret]? = some c
  behind : cs[offset]? = none ∨ cs[offset]? = some '\n' → caret = shown.length

/-- The last characters before an offset in its line and the first ones behind mark the offset. -/
theorem marks_around (inside : offset ≤ cs.length) {span : Nat} (wide : 1 ≤ span) :
    Marks cs offset span
      ((lineBefore cs offset).rtake span ++ (lineBehind cs offset).take span)
      ((lineBefore cs offset).rtake span).length := by
  obtain ⟨above, below, here, -, -, sum⟩ := exists_lineAt inside
  obtain ⟨rest, behind, stops⟩ := exists_drop_eq cs offset
  have size : ((lineBefore cs offset).rtake span).length =
      min span (lineBefore cs offset).length := by
    rw [List.rtake, List.length_drop]
    omega
  have next : cs[offset]? = (lineBehind cs offset ++ rest).head? := by
    rw [← behind, List.head?_drop]
  constructor
  case cut =>
    refine ⟨above, _, below, (lineBefore cs offset).take ((lineBefore cs offset).length - span),
      (lineBehind cs offset).drop span, here, ?_, ?_⟩
    · rw [List.append_assoc, List.take_append_drop, ← List.append_assoc, List.rtake,
        List.take_append_drop]
    · rw [size, List.length_take]
      omega
  case short =>
    rw [List.length_append, size, List.length_take]
    omega
  case near =>
    rw [List.length_append, size]
    omega
  case under =>
    intro c found visible
    -- The character does not end the line, so what is behind the offset in it begins with it.
    rw [next] at found
    cases ahead : lineBehind cs offset with
    | nil =>
      rw [ahead, List.nil_append] at found
      rcases stops with rfl | newline
      · cases found
      · rw [newline] at found
        exact absurd (Option.some.inj found).symm visible
    | cons d ds =>
      rw [ahead] at found
      obtain rfl : d = c := Option.some.inj found
      obtain ⟨more, rfl⟩ := Nat.exists_eq_add_of_le' wide
      simp
  case behind =>
    intro ends
    cases ahead : lineBehind cs offset with
    | nil => simp
    | cons d ds =>
      rw [next, ahead] at ends
      have visible : d ≠ '\n' := by
        have unbroken := newline_not_mem_line cs offset
        rw [ahead] at unbroken
        rintro rfl
        simp at unbroken
      simp [visible] at ends

end Position

namespace ParseError
open Position

/-- What is shown of an error are two lines, and they mark its place. -/
theorem context_marks (e : ParseError) (span : Nat) (inside : e.offset ≤ e.text.length)
    (wide : 1 ≤ span) :
    (e.context span).toList.splitOn '\n' =
        [e.snippet span, List.replicate (e.caretColumn span) ' ' ++ ['^']] ∧
      Marks e.text.toList e.offset span (e.snippet span) (e.caretColumn span) := by
  have inside' : e.offset ≤ e.text.toList.length := by rwa [String.length_toList]
  have snippet : e.snippet span = (lineBefore e.text.toList e.offset).rtake span ++
      (lineBehind e.text.toList e.offset).take span := drop_take_window inside' span
  have caret : e.caretColumn span = ((lineBefore e.text.toList e.offset).rtake span).length := by
    have start := lineStart_add inside'
    rw [caretColumn, List.rtake, List.length_drop]
    omega
  constructor
  · have unbroken : '\n' ∉ e.snippet span := by
      rw [snippet]
      intro member
      apply newline_not_mem_line e.text.toList e.offset
      rcases List.mem_append.1 member with before | behind
      · exact List.mem_append_left _ (List.mem_of_mem_drop before)
      · exact List.mem_append_right _ (List.mem_of_mem_take behind)
    have below : '\n' ∉ List.replicate (e.caretColumn span) ' ' ++ ['^'] := by
      simp [List.mem_replicate]
    rw [context, String.toList_ofList, List.append_assoc, List.cons_append,
      List.splitOn_append_cons_self, List.splitOn_eq_singleton unbroken,
      List.splitOn_eq_singleton below]
    rfl
  · rw [snippet, caret]
    exact marks_around inside' wide

theorem context_marks_dash :
    (atOffset "a\ncd-ef\n" 4 []).offset ≤ "a\ncd-ef\n".length ∧ 1 ≤ 2 ∧
    ((atOffset "a\ncd-ef\n" 4 []).context 2).toList.splitOn '\n' =
      ["cd-e".toList, "  ^".toList] ∧
    Marks "a\ncd-ef\n".toList 4 2 "cd-e".toList 2 := by
  have inside : (atOffset "a\ncd-ef\n" 4 []).offset ≤ "a\ncd-ef\n".length := by decide
  obtain ⟨lines, marks⟩ := context_marks (atOffset "a\ncd-ef\n" 4 []) 2 inside (by decide)
  have snippet : (atOffset "a\ncd-ef\n" 4 []).snippet 2 = "cd-e".toList := by decide
  have caret : (atOffset "a\ncd-ef\n" 4 []).caretColumn 2 = 2 := by decide
  rw [snippet, caret] at lines marks
  exact ⟨inside, by decide, lines, marks⟩

end ParseError

end CommandLine
