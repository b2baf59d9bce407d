import CommandLine.ParseError
import Mathlib.Data.List.DropRight

/-!
# Where an error stands

An offset lies in one of the lines of a text, an offset at a newline in the line that the newline
ends (`Position.exists_lineAt`). Line, column and byte of an error are each computed from the text
by itself, and all three tell the place that its offset tells (`ParseError.coordinates_agree`).
-/

namespace CommandLine

namespace Position

/-! ## Lines of a text -/

/-- How many characters some lines take in a text, each with the newline that ends it. -/
def extent : List (List Char) → Nat
  | [] => 0
  | line :: lines => line.length + 1 + extent lines

/-- Lines with a newline behind each. -/
def terminated (lines : List (List Char)) : List Char := lines.flatMap (· ++ ['\n'])

/-- What stands behind the last newline of a text. -/
def lastLine (cs : List Char) : List Char := cs.rtakeWhile (· != '\n')

variable {lines : List (List Char)}

theorem terminated_cons (line : List Char) (lines : List (List Char)) :
    terminated (line :: lines) = line ++ '\n' :: terminated lines := by
  simp [terminated]

theorem length_terminated (lines : List (List Char)) :
    (terminated lines).length = extent lines := by
  induction lines with
  | nil => rfl
  | cons line lines ih =>
    rw [terminated_cons, List.length_append, List.length_cons, ih, extent]
    omega

theorem count_terminated (whole : ∀ line ∈ lines, '\n' ∉ line) :
    (terminated lines).count '\n' = lines.length := by
  induction lines with
  | nil => rfl
  | cons line lines ih =>
    obtain ⟨first, others⟩ := List.forall_mem_cons.1 whole
    rw [terminated_cons, List.count_append, List.count_cons_self, ih others,
      List.count_eq_zero_of_not_mem first, List.length_cons, Nat.zero_add]

/-- Lines that are ended by newlines are the first lines of a text. -/
theorem splitOn_terminated_append (whole : ∀ line ∈ lines, '\n' ∉ line) (rest : List Char) :
    (terminated lines ++ rest).splitOn '\n' = lines ++ rest.splitOn '\n' := by
  induction lines with
  | nil => rfl
  | cons line lines ih =>
    obtain ⟨first, others⟩ := List.forall_mem_cons.1 whole
    rw [terminated_cons, List.append_assoc, List.cons_append, List.splitOn_append_cons_self,
      List.splitOn_eq_singleton first, ih others]
    rfl

/-- What is not broken before a newline or the end of a text is its first line. -/
theorem exists_splitOn_append {line rest : List Char} (unbroken : '\n' ∉ line)
    (stops : rest = [] ∨ rest.head? = some '\n') :
    ∃ below, (line ++ rest).splitOn '\n' = line :: below := by
  cases rest with
  | nil => exact ⟨[], by rw [List.append_nil, List.splitOn_eq_singleton unbroken]⟩
  | cons c rest =>
    obtain rfl : c = '\n' := by simpa using stops
    refine ⟨rest.splitOn '\n', ?_⟩
    rw [List.splitOn_append_cons_self, List.splitOn_eq_singleton unbroken]
    rfl

theorem newline_not_mem_lastLine (cs : List Char) : '\n' ∉ lastLine cs := by
  intro member
  have other := List.mem_rtakeWhile_imp member
  simp at other

/-- A text consists of lines that are ended by newlines and a last one that is not. -/
theorem exists_terminated (cs : List Char) :
    ∃ lines, (∀ line ∈ lines, '\n' ∉ line) ∧ cs = terminated lines ++ lastLine cs := by
  induction cs using List.reverseRecOn with
  | nil => exact ⟨[], by simp, rfl⟩
  | append_singleton cs c ih =>
    obtain ⟨lines, whole, split⟩ := ih
    by_cases newline : c = '\n'
    · -- The newline ends the line that was the last one so far.
      subst newline
      have fresh : lastLine (cs ++ ['\n']) = [] := List.rtakeWhile_concat_neg _ _ _ (by simp)
      refine ⟨lines ++ [lastLine cs], ?_, ?_⟩
      · intro line member
        rcases List.mem_append.1 member with among | last
        · exact whole line among
        · rw [List.mem_singleton.1 last]
          exact newline_not_mem_lastLine cs
      · have more : terminated (lines ++ [lastLine cs]) =
            terminated lines ++ lastLine cs ++ ['\n'] := by
          simp [terminated]
        rw [fresh, more, ← split, List.append_nil]
    · have longer : lastLine (cs ++ [c]) = lastLine cs ++ [c] :=
        List.rtakeWhile_concat_pos _ _ _ (by simp [newline])
      refine ⟨lines, whole, ?_⟩
      rw [longer, ← List.append_assoc, ← split]

/-! ## The line of an offset -/

/-- What stands in the line of an offset before the offset. -/
def lineBefore (cs : List Char) (offset : Nat) : List Char := lastLine (cs.take offset)

/-- What stands in the line of an offset from the offset on. -/
def lineBehind (cs : List Char) (offset : Nat) : List Char :=
  (cs.drop offset).takeWhile (· != '\n')

variable {cs : List Char} {offset : Nat}

theorem sinceNewline_eq (cs : List Char) (offset : Nat) :
    sinceNewline cs offset = (lineBefore cs offset).length := by
  simp [sinceNewline, lineBefore, lastLine, List.rtakeWhile]

theorem newline_not_mem_line (cs : List Char) (offset : Nat) :
    '\n' ∉ lineBefore cs offset ++ lineBehind cs offset := by
  intro member
  rcases List.mem_append.1 member with before | behind
  · exact newline_not_mem_lastLine _ before
  · have other := List.mem_takeWhile_imp behind
    simp at other

/-- Whole lines stand above the line of an offset. -/
theorem exists_take_eq (cs : List Char) (offset : Nat) :
    ∃ above, (∀ line ∈ above, '\n' ∉ line) ∧
      cs.take offset = terminated above ++ lineBefore cs offset :=
  exists_terminated (cs.take offset)

/-- Behind the line of an offset the text ends or goes on with a newline. -/
theorem exists_drop_eq (cs : List Char) (offset : Nat) :
    ∃ rest, cs.drop offset = lineBehind cs offset ++ rest ∧
      (rest = [] ∨ rest.head? = some '\n') := by
  refine ⟨(cs.drop offset).dropWhile (· != '\n'), List.takeWhile_append_dropWhile.symm, ?_⟩
  have stop := List.head?_dropWhile_not (· != '\n') (cs.drop offset)
  cases ahead : (cs.drop offset).dropWhile (· != '\n') with
  | nil => exact .inl rfl
  | cons c rest =>
    rw [ahead] at stop
    have newline : c = '\n' := by simpa using stop
    exact .inr (congrArg some newline)

/-- The line of an offset among the lines of a text: the lines above it end before the offset, and
it reaches to the offset at least. -/
structure LineAt (cs : List Char) (offset : Nat) (above : List (List Char)) (line : List Char)
    (below : List (List Char)) : Prop where
  lines : cs.splitOn '\n' = above ++ line :: below
  starts : extent above ≤ offset
  reaches : offset ≤ extent above + line.length

/-- Every offset lies in a line. Its line and its column tell in which and how far from its
beginning. -/
theorem exists_lineAt (inside : offset ≤ cs.length) :
    ∃ above below, LineAt cs offset above (lineBefore cs offset ++ lineBehind cs offset) below ∧
      (locate cs offset).line = above.length + 1 ∧
      (locate cs offset).column = (lineBefore cs offset).length + 1 ∧
      extent above + (lineBefore cs offset).length = offset := by
  obtain ⟨above, whole, before⟩ := exists_take_eq cs offset
  obtain ⟨rest, behind, stops⟩ := exists_drop_eq cs offset
  have size : (cs.take offset).length = offset := List.length_take_of_le inside
  have sum : extent above + (lineBefore cs offset).length = offset := by
    rw [← length_terminated, ← List.length_append, ← before, size]
  obtain ⟨below, first⟩ := exists_splitOn_append (newline_not_mem_line cs offset) stops
  have lines : cs.splitOn '\n' =
      above ++ (lineBefore cs offset ++ lineBehind cs offset) :: below := by
    rw [← first, ← splitOn_terminated_append whole, List.append_assoc, ← behind,
      ← List.append_assoc, ← before, List.take_append_drop]
  refine ⟨above, below, ⟨lines, ?_, ?_⟩, ?_, ?_, sum⟩
  · omega
  · rw [List.length_append]
    omega
  · have none : (lineBefore cs offset).count '\n' = 0 :=
      List.count_eq_zero_of_not_mem (newline_not_mem_lastLine _)
    rw [locate, before, List.count_append, count_terminated whole, none, Nat.add_zero]
  · show offset - lineStart cs offset + 1 = _
    rw [lineStart, size, sinceNewline_eq]
    omega

/-- A line and a column, counted from one, that tell an offset of a text: the line is one of those
of the text, the column lies in it or directly behind it, and the lines above it with their newlines
and the columns before it take as many characters as precede the offset. -/
structure Tells (cs : List Char) (line column offset : Nat) : Prop where
  first : 1 ≤ line ∧ 1 ≤ column
  last : line ≤ (cs.splitOn '\n').length
  within : ∃ here, (cs.splitOn '\n')[line - 1]? = some here ∧ column ≤ here.length + 1
  sum : extent ((cs.splitOn '\n').take (line - 1)) + (column - 1) = offset

/-! ## Bytes -/

theorem bytesBefore_add (cs : List Char) (offset more : Nat) :
    bytesBefore cs (offset + more) =
      bytesBefore cs offset + (String.ofList ((cs.drop offset).take more)).utf8ByteSize := by
  rw [bytesBefore, List.take_add, String.ofList_append, String.utf8ByteSize_append, bytesBefore]

/-- Every character takes a byte at least. -/
theorem bytesBefore_lt {later : Nat} (behind : offset < later) (inside : later ≤ cs.length) :
    bytesBefore cs offset < bytesBefore cs later := by
  obtain ⟨more, rfl⟩ := Nat.exists_eq_add_of_lt behind
  have some : (String.ofList ((cs.drop offset).take (more + 1))).utf8ByteSize ≠ 0 := by
    intro none
    have nothing := congrArg String.toList (String.utf8ByteSize_eq_zero_iff.1 none)
    have size := congrArg List.length nothing
    simp at size
    omega
  rw [Nat.add_assoc, bytesBefore_add]
  omega

/-- The bytes before an offset encode the characters before it. -/
theorem extract_bytesBefore (text : String) (offset : Nat) :
    text.toUTF8.extract 0 (bytesBefore text.toList offset) =
      (String.ofList (text.toList.take offset)).toUTF8 := by
  have split : text = String.ofList (text.toList.take offset) ++
      String.ofList (text.toList.drop offset) := by
    rw [← String.ofList_append, List.take_append_drop, String.ofList_toList]
  nth_rewrite 1 [split]
  simp only [String.toUTF8_eq_toByteArray, String.toByteArray_append]
  exact ByteArray.extract_append_eq_left rfl

end Position

namespace ParseError
open Position

/-- Line and column of an error tell its offset, and so does its byte: up to it the text is encoded
as the characters before the error are, and every later error stands at a later byte. -/
theorem coordinates_agree (e : ParseError) (inside : e.offset ≤ e.text.length) :
    Tells e.text.toList e.position.line e.position.column e.offset ∧
    (String.ofList (e.text.toList.take e.offset)).toUTF8.size = e.bytePosition ∧
    e.text.toUTF8.extract 0 e.bytePosition =
      (String.ofList (e.text.toList.take e.offset)).toUTF8 ∧
    ∀ later : ParseError, later.text = e.text → e.offset < later.offset →
      later.offset ≤ e.text.length → e.bytePosition < later.bytePosition := by
  have inside' : e.offset ≤ e.text.toList.length := by rwa [String.length_toList]
  obtain ⟨above, below, here, line, column, sum⟩ := exists_lineAt inside'
  have lines := here.lines
  change e.position.line = _ at line
  change e.position.column = _ at column
  refine ⟨?_, rfl, extract_bytesBefore e.text e.offset, ?_⟩
  · constructor
    case first => omega
    case last =>
      rw [line, lines, List.length_append, List.length_cons]
      omega
    case within =>
      refine ⟨lineBefore e.text.toList e.offset ++ lineBehind e.text.toList e.offset, ?_, ?_⟩
      · rw [line, lines, Nat.add_sub_cancel, List.getElem?_append_right (Nat.le_refl _),
          Nat.sub_self, List.getElem?_cons_zero]
      · rw [column, List.length_append]
        omega
    case sum =>
      rw [line, column, lines, Nat.add_sub_cancel, Nat.add_sub_cancel, List.take_left, sum]
  · intro later same behind within
    rw [bytePosition, bytePosition, same]
    exact bytesBefore_lt behind within

theorem coordinates_agree_wide :
    (atOffset "é\n\n😀]" 4 []).offset ≤ "é\n\n😀]".length ∧
    Tells "é\n\n😀]".toList 3 2 4 ∧
    "é\n\n😀]".toUTF8.extract 0 8 = "é\n\n😀".toUTF8 ∧
    (atOffset "é\n\n😀]" 4 []).bytePosition < (atOffset "é\n\n😀]" 5 []).bytePosition := by
  have inside : (atOffset "é\n\n😀]" 4 []).offset ≤ "é\n\n😀]".length := by decide
  obtain ⟨tells, -, encoded, later⟩ := coordinates_agree (atOffset "é\n\n😀]" 4 []) inside
  have place : (atOffset "é\n\n😀]" 4 []).position = ⟨4, 3, 2⟩ := by decide
  have byte : (atOffset "é\n\n😀]" 4 []).bytePosition = 8 := by decide
  rw [place] at tells
  rw [byte] at encoded
  exact ⟨inside, tells, encoded, later (atOffset "é\n\n😀]" 5 []) rfl (by decide) (by decide)⟩

end ParseError

end CommandLine
