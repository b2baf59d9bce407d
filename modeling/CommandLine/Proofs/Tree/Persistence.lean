import CommandLine.Proofs.Tree.Rejection

/-!
# Errors that stay

Where a line is rejected before its end, a longer line is rejected as well, at the same place for
the same reason: `Tree.parse_error_append`. Only a quoted string that is not closed yet can be
repaired by what is written behind it.
-/

namespace CommandLine
open CommandLine.Text CommandLine.Text.Scanner

namespace Item

variable {a b : Stage} {t : Terminal} {lexeme cs rest : List Char} {c : Char}

/-- Which token begins with a character other than a quote does not depend on what is written
behind the word. -/
theorem firstScan_append_of_ne (ts : List Terminal) (unquoted : c ≠ '"')
    (ends : Terminal.endsWord rest = true) :
    firstScan ts (c :: cs ++ rest) =
      (firstScan ts (c :: cs)).map fun found => (found.1, found.2.1, found.2.2 ++ rest) := by
  induction ts with
  | nil => rfl
  | cons t ts ih =>
    have scanned : t.scan (c :: cs ++ rest) =
        (t.scan (c :: cs)).map fun found => (found.1, found.2 ++ rest) := by
      by_cases quoted : t = .scalar .quoted
      · subst quoted
        rw [List.cons_append, Terminal.quoted_scan_of_ne unquoted,
          Terminal.quoted_scan_of_ne unquoted]
        rfl
      · exact Terminal.scan_stopsAt quoted (c :: cs) rest ends
    rw [firstScan, firstScan, scanned]
    cases t.scan (c :: cs) with
    | none => exact ih
    | some found => rfl

theorem unread_append (sought : List Terminal) (here : Position) (unquoted : c ≠ '"')
    (ends : Terminal.endsWord rest = true) :
    unread sought here (c :: cs ++ rest) = unread sought here (c :: cs) := by
  unfold unread
  rw [firstScan_append_of_ne _ unquoted ends]
  cases firstScan Terminal.byPriority (c :: cs) <;> rfl

theorem Steps.append (h : Steps a t lexeme b) (ends : Terminal.endsWord rest = true) :
    Steps (a.leaving (a.left ++ rest)) t lexeme (b.leaving (b.left ++ rest)) := by
  have follows := follow_append (follow_of_firstScan h.found).2 ends
  have step := h.replace follows
  have left : a.gap ++ (lexeme ++ (b.left ++ rest)) = a.left ++ rest := by
    rw [h.split.1]
    simp
  rwa [left] at step

/-- Every token of a text is read as well when more is written behind the text. -/
theorem Reaches.append (h : Reaches a b) (ends : Terminal.endsWord rest = true) :
    Reaches (a.leaving (a.left ++ rest)) (b.leaving (b.left ++ rest)) := by
  induction h with
  | refl => exact .refl _
  | step first more ih => exact .step (first.append ends) ih

/-- Reading stops where it stopped when more is written behind the text. -/
theorem Ends.append {rejection : Rejection} (h : Ends a (.error rejection))
    (ahead : a.ahead = c :: cs) (unquoted : c ≠ '"') (ends : Terminal.endsWord rest = true) :
    Ends (a.leaving (a.left ++ rest)) (.error rejection) := by
  have more : a.ahead ≠ [] := by simp [ahead]
  obtain ⟨gap, skipped⟩ := takeWhile_blank_append_rest more rest
  have there : (a.leaving (a.left ++ rest)).there = a.there := congrArg a.here.advance gap
  have ahead' : (a.leaving (a.left ++ rest)).ahead = c :: cs ++ rest := ahead ▸ skipped
  have found' : (a.leaving (a.left ++ rest)).found? =
      a.found?.map fun found => (found.1, found.2.1, found.2.2 ++ rest) := by
    rw [Stage.found?, Stage.found?, ahead', ahead]
    exact firstScan_append_of_ne _ unquoted ends
  cases h with
  | unfinished nothing => exact absurd nothing more
  | unread _ missing =>
    have stopped : Ends (a.leaving (a.left ++ rest)) _ :=
      .unread (by simp [ahead']) (by rw [found', missing]; rfl)
    rw [there, ahead', unread_append _ _ unquoted ends, ← ahead] at stopped
    exact stopped
  | @refused t lexeme rest' found refused =>
    have stopped : Ends (a.leaving (a.left ++ rest)) _ :=
      .refused (by rw [found', found]; rfl) (by rw [there]; exact refused)
    rw [there] at stopped
    exact stopped

end Item

namespace Tree
open CommandLine.Item

theorem ofOffset_append {cs : List Char} {offset : Nat} (inside : offset < cs.length)
    (rest : List Char) : Reason.ofOffset (cs ++ rest) offset = Reason.ofOffset cs offset := by
  rw [Reason.ofOffset, Reason.ofOffset, List.getElem?_append_left inside]

/-- A rejection inside a text is told in the same way about a longer text. -/
theorem toError_append {text : String} {a : Stage} {rejection : Rejection}
    (ends : Ends a (.error rejection)) (more : a.ahead ≠ [])
    (inside : a.there.offset < text.length) (rest : String) :
    rejection.toError (text ++ rest) = { rejection.toError text with text := text ++ rest } := by
  cases ends with
  | unfinished nothing => exact absurd nothing more
  | refused => rfl
  | unread =>
    unfold Item.unread
    split
    · rfl
    · rw [← String.length_toList] at inside
      simp only [Rejection.toError, ParseError.atOffset, String.toList_append,
        ofOffset_append inside]

/-- An error before the end of a text stays whatever is written behind the text and a blank, unless
it stands at a quote. -/
theorem parse_error_append {a gap b : String} {error : ParseError}
    (rejected : parse a = .error error) (inside : error.offset < a.length)
    (unquoted : a.toList[error.offset]? ≠ some '"') (blank : Blank gap.toList) (apart : gap ≠ "") :
    parse (a ++ gap ++ b) = .error { error with text := a ++ gap ++ b } := by
  obtain ⟨s, rejection, reached, ends, rfl⟩ := parse_eq_error_iff.1 rejected
  obtain ⟨front, split, offset⟩ := reached.exists_front
  have place := (fails_of_ends split offset ends).offset_eq
  have more : s.ahead ≠ [] := by
    intro nothing
    have whole : a.length = front.length := by
      rw [← String.length_toList, split, nothing, List.append_nil]
    omega
  obtain ⟨c, tail, ahead⟩ := List.exists_cons_of_ne_nil more
  have unquoted : c ≠ '"' := by
    rw [place, offset, split, ahead] at unquoted
    simpa using unquoted
  -- What is written behind the text begins with a blank, so every word of the text ends as before.
  have word : Terminal.endsWord (gap ++ b).toList = true := by
    have apart : gap.toList ≠ [] := by simpa using apart
    obtain ⟨d, gap', same⟩ := List.exists_cons_of_ne_nil apart
    rw [String.toList_append, same]
    exact blank d (same ▸ List.mem_cons_self)
  have reached' := reached.append word
  have ends' := ends.append ahead unquoted word
  rw [String.append_assoc]
  refine parse_eq_error_iff.2 ⟨_, rejection, ?_, ends', ?_⟩
  · rw [String.toList_append]
    exact reached'
  · exact toError_append ends more (place ▸ inside) (gap ++ b)

theorem parse_error_append_keyInList :
    parse "[1 k:" =
        .error ⟨"[1 k:", 3, [.terminal .closeBracket, .terminal .comma], .unexpected "k:"⟩ ∧
      parse ("[1 k:" ++ "\n" ++ "\"2\"]") =
        .error ⟨"[1 k:\n\"2\"]", 3, [.terminal .closeBracket, .terminal .comma],
          .unexpected "k:"⟩ := by
  have rejected : parse "[1 k:" =
      .error ⟨"[1 k:", 3, [.terminal .closeBracket, .terminal .comma], .unexpected "k:"⟩ := by cbv
  have blank : Blank "\n".toList := List.forall_mem_singleton.2 (by decide)
  exact ⟨rejected, parse_error_append rejected (by decide) (by decide) blank (by decide)⟩

end Tree

end CommandLine
