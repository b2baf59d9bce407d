import CommandLine.Proofs.Item.Continuation

/-!
# Refused tokens

Only behind a value more is looked for than can stand there. A token that is found there in vain
begins with a character that nothing which can stand there begins with, so no line goes on with
it: `not_ofText_of_refused`.
-/

namespace CommandLine
open CommandLine.Text

namespace State

variable {s next : State} {t : Terminal} {cs : List Char}

/-- Whether a value was read last. -/
def behindValue : State → Bool
  | between _ afterValue => afterValue
  | awaiting _ _ => false
  | within _ _ _ => true

theorem seeks_eq_accepts (h : s.behindValue = false) : s.seeks = s.accepts := by
  cases s with
  | between items afterValue =>
    obtain rfl : afterValue = false := h
    rfl
  | awaiting => rfl
  | within => exact absurd h (by simp [behindValue])

theorem seeks_of_behindValue (h : s.behindValue = true) (t : Terminal) : s.seeks t = true := by
  cases s with
  | between items afterValue =>
    obtain rfl : afterValue = true := h
    rfl
  | awaiting => exact absurd h (by simp [behindValue])
  | within => rfl

theorem exists_not_accepts (h : s.behindValue = true) : ∃ t, s.accepts t = false := by
  cases s with
  | between => exact ⟨.comma, rfl⟩
  | awaiting => exact absurd h (by simp [behindValue])
  | within => exact ⟨.key, rfl⟩

theorem resumes_of_behindValue (h : s.behindValue = true) : s.resumes = Terminal.endsValue := by
  cases s with
  | between items afterValue =>
    obtain rfl : afterValue = true := h
    rfl
  | awaiting => exact absurd h (by simp [behindValue])
  | within => rfl

/-- What follows the last token of a value ends the value. -/
theorem endsValue_of_shift {token : Token} (shifted : s.shift t token = some next)
    (h : next.behindValue = true) (follows : t.follow cs = true) :
    Terminal.endsValue cs = true := by
  cases shifts_of_shift shifted with
  | argument => exact follows
  | scalar => exact follows
  | closeBracket => exact follows
  | _ => simp [behindValue] at h

end State

namespace Item

variable {a b : Stage} {t : Terminal} {front lexeme rest cs : List Char}

theorem Reaches.endsValue (h : Reaches a b)
    (before : a.state.behindValue = true → Terminal.endsValue a.left = true)
    (behind : b.state.behindValue = true) : Terminal.endsValue b.left = true := by
  induction h with
  | refl => exact before behind
  | step first more ih =>
    exact ih (fun h => State.endsValue_of_shift first.shifted h
      (follow_of_firstScan first.found).2) behind

/-- Behind a value no token is found only where no terminal has a lexeme. -/
theorem found?_eq_none_iff (behind : a.state.behindValue = true) :
    a.found? = none ↔ ∀ t : Terminal, t.scan a.ahead = none := by
  have all : Terminal.byPriority.filter a.state.seeks = Terminal.byPriority :=
    List.filter_eq_self.2 fun t _ => State.seeks_of_behindValue behind t
  rw [Stage.found?, all, firstScan_eq_none_iff]
  exact ⟨fun h t => h t t.mem_byPriority, fun h t _ => h t⟩

/-- No line goes on with the first character of a refused token. -/
theorem not_ofText_of_refused (h : Reaches (.first (front ++ a.ahead)) a)
    (found : a.found? = some (t, lexeme, rest))
    (refused : a.state.shift t (.read t lexeme a.there) = none) {c : Char} {tail : List Char}
    (ahead : a.ahead = c :: tail) (more : List Char) :
    ¬ ∃ items, ofText (front ++ c :: more) = .ok items := by
  have fails : a.state.accepts t = false := by
    rw [← State.shift_isSome, refused]
    rfl
  have sought : a.state.seeks t = true := (List.mem_filter.1 (firstScan_eq_some found).1).2
  have behind : a.state.behindValue = true := by
    cases behind : a.state.behindValue with
    | true => rfl
    | false => simp [State.seeks_eq_accepts behind, fails] at sought
  -- The other line is read up to the same stage: the same character ends the value before it.
  have ends := h.endsValue (fun atStart => absurd atStart Bool.false_ne_true) behind
  have resumes : a.state.resumes (a.gap ++ c :: more) = true := by
    rw [← a.gap_append_ahead, ahead] at ends
    have same : Terminal.endsValue (a.gap ++ c :: more) =
        Terminal.endsValue (a.gap ++ c :: tail) := by cases a.gap <;> rfl
    rw [State.resumes_of_behindValue behind, same, ends]
  have reached := h.replace_ahead resumes
  have visible := Stage.visible_of_ahead ahead
  have ahead' : (a.leaving (a.gap ++ c :: more)).ahead = c :: more := by
    show skipBlanks (a.gap ++ c :: more) = c :: more
    rw [skipBlanks_append a.blank_gap]
    simp [skipBlanks, visible]
  rintro ⟨items, accepted⟩
  obtain ⟨b, further, ends'⟩ := Stage.result_eq_iff.1 (reached.result_eq.symm.trans accepted)
  cases further with
  | refl =>
    cases ends' with
    | accepted nothing => simp [ahead'] at nothing
  | @step _ b _ u lexeme' first _ =>
    have accepts : a.state.accepts u = true := State.accepts_of_shift first.shifted
    have scanned := (follow_of_firstScan found).1
    have scanned' := (follow_of_firstScan first.found).1
    rw [ahead] at scanned
    rw [ahead'] at scanned'
    simp [State.accepts_of_scan sought scanned accepts scanned'] at fails

end Item

end CommandLine
