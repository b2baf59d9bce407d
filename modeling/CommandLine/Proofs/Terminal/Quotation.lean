import CommandLine.Proofs.Text.Stopping
import CommandLine.Text.Escaped

/-!
# The inside of quoted strings

Which texts can stand between the quotes of a quoted string, and that these are the strings with
escaped quotes that do not end in a backslash.
-/

namespace CommandLine.Terminal
open CommandLine.Text CommandLine.Text.Scanner

/-- A text without a quote that no backslash precedes directly, which does not end in a backslash.
The flag tells whether a backslash stands before the text. -/
def Inside (afterBackslash : Bool) : List Char → Prop
  | [] => afterBackslash = false
  | c :: cs => (c = '"' → afterBackslash = true) ∧ Inside (c == '\\') cs

theorem cutAtQuote_complete {body : List Char} {afterBackslash : Bool} (taken rest : List Char)
    (inside : Inside afterBackslash body) :
    cutAtQuote afterBackslash taken (body ++ '"' :: rest) =
      (taken.reverse ++ body, '"' :: rest) := by
  induction body generalizing afterBackslash taken with
  | nil =>
    have unescaped : afterBackslash = false := inside
    simp [cutAtQuote, unescaped]
  | cons c body ih =>
    obtain ⟨first, tail⟩ := inside
    have goesOn : ¬ (c = '"' ∧ afterBackslash = false) := by
      rintro ⟨quote, unescaped⟩
      simp [first quote] at unescaped
    rw [List.cons_append, cutAtQuote, if_neg goesOn, ih (c :: taken) tail]
    simp

theorem cutAtQuote_sound {cs l rest taken : List Char} {afterBackslash : Bool}
    (cut : cutAtQuote afterBackslash taken cs = (l, '"' :: rest)) :
    ∃ body, l = taken.reverse ++ body ∧ cs = body ++ '"' :: rest ∧ Inside afterBackslash body := by
  induction cs generalizing afterBackslash taken with
  | nil => simp [cutAtQuote] at cut
  | cons c cs ih =>
    rw [cutAtQuote] at cut
    split at cut
    · next closes =>
      obtain ⟨rfl, same⟩ : taken.reverse = l ∧ c :: cs = '"' :: rest := by simpa using cut
      exact ⟨[], by simp, same, closes.2⟩
    · next goesOn =>
      obtain ⟨body, rfl, rfl, inside⟩ := ih cut
      refine ⟨c :: body, by simp, by simp, fun quote => ?_, inside⟩
      cases afterBackslash with
      | false => exact absurd ⟨quote, rfl⟩ goesOn
      | true => rfl

theorem quoted_body :
    (scalar .quoted).body = (one (· == '"')).seq (quotedBody.seq (one (· == '"'))) := rfl

/-- A quoted string begins and ends with a quote, and what stands between them is inside. -/
theorem quoted_body_eq_some {cs l rest : List Char} :
    (scalar .quoted).body cs = some (l, rest) ↔
      ∃ body, l = '"' :: body ++ ['"'] ∧ Inside false body ∧ cs = l ++ rest := by
  constructor
  · intro h
    have split := (body_proper _ _ _ _ h).1
    obtain ⟨_, l₂, m, first, second, rfl⟩ := seq_eq_some.1 h
    obtain ⟨c, rfl, quote, rfl⟩ := one_eq_some.1 first
    obtain ⟨body, _, m', cut, last, rfl⟩ := seq_eq_some.1 second
    obtain ⟨d, rfl, close, rfl⟩ := one_eq_some.1 last
    obtain rfl : c = '"' := by simpa using quote
    obtain rfl : d = '"' := by simpa using close
    have cut : cutAtQuote false [] m = (body, '"' :: rest) := by simpa [quotedBody] using cut
    obtain ⟨body', same, -, inside⟩ := cutAtQuote_sound cut
    obtain rfl : body = body' := by simpa using same
    exact ⟨body, rfl, inside, split⟩
  · rintro ⟨body, rfl, inside, rfl⟩
    have cut : quotedBody (body ++ '"' :: rest) = some (body, '"' :: rest) := by
      simp [quotedBody, cutAtQuote_complete [] rest inside]
    rw [quoted_body]
    refine seq_eq_some.2 ⟨['"'], body ++ ['"'], body ++ '"' :: rest, ?_, ?_, rfl⟩
    · exact one_eq_some.2 ⟨'"', rfl, rfl, by simp⟩
    · exact seq_eq_some.2 ⟨body, ['"'], '"' :: rest, cut, one_eq_some.2 ⟨'"', rfl, rfl, rfl⟩, rfl⟩

theorem quoted_body_closed : (scalar .quoted).body.Closed := by
  intro l rest other h
  obtain ⟨body, rfl, inside, -⟩ := quoted_body_eq_some.1 h
  exact quoted_body_eq_some.2 ⟨body, rfl, inside, rfl⟩

theorem getLast?_of_inside {body : List Char} {afterBackslash : Bool}
    (h : Inside afterBackslash body) : body.getLast? ≠ some '\\' := by
  induction body generalizing afterBackslash with
  | nil => simp
  | cons c body ih =>
    cases body with
    | nil =>
      have last : (c == '\\') = false := h.2
      simpa using last
    | cons d body =>
      rw [List.getLast?_cons_cons]
      exact ih h.2

/-! ## Escaped strings -/

/-- The last character stays the last one unless it is a quote that was escaped. -/
theorem getLast?_unescapeQuotes {cs : List Char} (h : cs.getLast? ≠ some '\\') :
    (unescapeQuotes cs).getLast? ≠ some '\\' := by
  have last {c : Char} {ds : List Char} (first : c ≠ '\\') (others : ds.getLast? ≠ some '\\') :
      (c :: ds).getLast? ≠ some '\\' := by
    cases ds with
    | nil => simpa using first
    | cons d ds => rwa [List.getLast?_cons_cons]
  have behind {c d : Char} {ds : List Char} (h : (c :: d :: ds).getLast? ≠ some '\\') :
      (d :: ds).getLast? ≠ some '\\' := by rwa [List.getLast?_cons_cons] at h
  -- A backslash that is taken off stood before a quote, so another character is the last one.
  fun_induction unescapeQuotes cs with
  | case1 cs ih =>
    cases cs with
    | nil => simp [unescapeQuotes]
    | cons d cs => exact last (by decide) (ih (behind (behind h)))
  | case2 c cs _ ih =>
    cases cs with
    | nil => simpa [unescapeQuotes] using h
    | cons d cs =>
      have tail := ih (behind h)
      have more : unescapeQuotes (d :: cs) ≠ [] := by
        unfold unescapeQuotes
        split <;> simp_all
      obtain ⟨e, es, same⟩ := List.exists_cons_of_ne_nil more
      rw [same] at tail ⊢
      rwa [List.getLast?_cons_cons]
  | case3 => simp

/-- A string with its quotes escaped can stand between quotes unless it ends in a backslash. -/
theorem inside_escapeQuotes {cs : List Char} {afterBackslash : Bool}
    (goesOn : afterBackslash = true → cs ≠ []) (last : cs.getLast? ≠ some '\\') :
    Inside afterBackslash (escapeQuotes cs) := by
  induction cs generalizing afterBackslash with
  | nil =>
    cases afterBackslash with
    | false => rfl
    | true => exact absurd rfl (goesOn rfl)
  | cons c cs ih =>
    have last' : cs.getLast? ≠ some '\\' := by
      cases cs with
      | nil => simp
      | cons d cs => rwa [List.getLast?_cons_cons] at last
    by_cases quote : c = '"'
    · subst quote
      rw [escapeQuotes, if_pos rfl]
      exact ⟨fun same => absurd same (by decide), fun _ => rfl, ih (by simp) last'⟩
    · rw [escapeQuotes, if_neg quote]
      refine ⟨fun same => absurd same quote, ih (fun backslash empty => ?_) last'⟩
      subst empty
      exact last (by simpa using backslash)

end CommandLine.Terminal
