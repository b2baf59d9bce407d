import CommandLine.Proofs.Item.Placement
import CommandLine.Proofs.Item.State

/-!
# What reading depends on

One equation for each way in which a reader goes on, and from these: how the reading of a text
changes when it begins elsewhere (`readFrom_after`), behind other items (`readFrom_above`), behind
a value (`readFrom_afterValue`), or when more text follows (`readFrom_append_of_ok`).
-/

namespace CommandLine.Item
open CommandLine.Text

variable {looks : State → Terminal → Bool} {s next : State} {here : Position}
  {cs lexeme rest : List Char} {t : Terminal}

/-! ## Steps -/

theorem skipBlanks_ne_nil_of_firstScan {ts : List Terminal}
    (found : firstScan ts (skipBlanks cs) = some (t, lexeme, rest)) :
    (skipBlanks cs).isEmpty = false := by
  obtain ⟨-, split, nonempty⟩ := firstScan_eq_some found
  simp [split, nonempty]

theorem readFrom_end (blank : skipBlanks cs = []) :
    readFrom looks s here cs =
      match s.items? with
      | some items => .ok items
      | none => .error (.endOfInput s.acceptable) := by
  have empty : (skipBlanks cs).isEmpty = true := by rw [blank]; rfl
  rw [readFrom]
  exact if_pos empty

theorem readFrom_unread (more : skipBlanks cs ≠ [])
    (missing : firstScan (Terminal.byPriority.filter (looks s)) (skipBlanks cs) = none) :
    readFrom looks s here cs =
      .error (unread (Terminal.byPriority.filter (looks s))
        (here.advance (cs.takeWhile isBlank)) (skipBlanks cs)) := by
  rw [readFrom]
  simp only [List.isEmpty_iff, more, if_false]
  split
  · rfl
  · next found => simp [missing] at found

theorem readFrom_refused
    (found : firstScan (Terminal.byPriority.filter (looks s)) (skipBlanks cs) =
      some (t, lexeme, rest))
    (refused : s.shift t (.read t lexeme (here.advance (cs.takeWhile isBlank))) = none) :
    readFrom looks s here cs =
      .error (.token (.read t lexeme (here.advance (cs.takeWhile isBlank))) s.acceptable) := by
  rw [readFrom]
  simp only [skipBlanks_ne_nil_of_firstScan found, Bool.false_eq_true, if_false]
  split
  · next missing => simp [missing] at found
  · next found' =>
    rw [found] at found'
    cases found'
    simp [refused]

theorem readFrom_shift
    (found : firstScan (Terminal.byPriority.filter (looks s)) (skipBlanks cs) =
      some (t, lexeme, rest))
    (shifted : s.shift t (.read t lexeme (here.advance (cs.takeWhile isBlank))) = some next) :
    readFrom looks s here cs =
      readFrom looks next ((here.advance (cs.takeWhile isBlank)).advance lexeme) rest := by
  rw [readFrom]
  simp only [skipBlanks_ne_nil_of_firstScan found, Bool.false_eq_true, if_false]
  split
  · next missing => simp [missing] at found
  · next found' =>
    rw [found] at found'
    cases found'
    simp only [shifted]
    rfl

/-- How a reader goes on from a state: the text ends, no token is found, a token is refused, or a
token leads to a next state. -/
inductive Going (looks : State → Terminal → Bool) (s : State) (here : Position)
    (cs : List Char) : Prop where
  | ends (blank : skipBlanks cs = [])
  | unread (more : skipBlanks cs ≠ [])
      (missing : firstScan (Terminal.byPriority.filter (looks s)) (skipBlanks cs) = none)
  | refused (t : Terminal) (lexeme rest : List Char)
      (found : firstScan (Terminal.byPriority.filter (looks s)) (skipBlanks cs) =
        some (t, lexeme, rest))
      (refused : s.shift t (.read t lexeme (here.advance (cs.takeWhile isBlank))) = none)
  | shifts (t : Terminal) (lexeme rest : List Char) (next : State)
      (found : firstScan (Terminal.byPriority.filter (looks s)) (skipBlanks cs) =
        some (t, lexeme, rest))
      (shifted : s.shift t (.read t lexeme (here.advance (cs.takeWhile isBlank))) = some next)

theorem going (looks : State → Terminal → Bool) (s : State) (here : Position) (cs : List Char) :
    Going looks s here cs := by
  by_cases blank : skipBlanks cs = []
  · exact .ends blank
  · cases found : firstScan (Terminal.byPriority.filter (looks s)) (skipBlanks cs) with
    | none => exact .unread blank found
    | some token =>
      obtain ⟨t, lexeme, rest⟩ := token
      cases shifted : s.shift t (.read t lexeme (here.advance (cs.takeWhile isBlank))) with
      | none => exact .refused t lexeme rest found shifted
      | some next => exact .shifts t lexeme rest next found shifted

/-- After a token less text is left. -/
theorem length_lt_of_firstScan {ts : List Terminal}
    (found : firstScan ts (skipBlanks cs) = some (t, lexeme, rest)) : rest.length < cs.length := by
  obtain ⟨-, split, nonempty⟩ := firstScan_eq_some found
  have shorter := congrArg List.length split
  have := List.length_pos_iff.2 nonempty
  have := length_skipBlanks_le cs
  simp only [List.length_append] at shorter
  omega

/-! ## Blanks -/

/-- The empty line has no items. -/
theorem ofText_nil : ofText [] = .ok [] := by
  rw [ofText, readFrom_end rfl]
  rfl

theorem takeWhile_blank_append {gap : List Char} (blank : Blank gap) (cs : List Char) :
    (gap ++ cs).takeWhile isBlank = gap ++ cs.takeWhile isBlank :=
  List.takeWhile_append_of_pos blank

theorem skipBlanks_append {gap : List Char} (blank : Blank gap) (cs : List Char) :
    skipBlanks (gap ++ cs) = skipBlanks cs :=
  List.dropWhile_append_of_pos blank

theorem skipBlanks_eq_nil_iff : skipBlanks cs = [] ↔ Blank cs := by
  induction cs with
  | nil => simp [skipBlanks, Blank]
  | cons c cs ih =>
    by_cases blank : isBlank c = true
    · have step : skipBlanks (c :: cs) = skipBlanks cs := List.dropWhile_cons_of_pos blank
      rw [step, ih]
      constructor
      · exact fun tail => List.forall_mem_cons.2 ⟨blank, tail⟩
      · exact fun all => (List.forall_mem_cons.1 all).2
    · simp [skipBlanks, blank, Blank]

/-- Blanks before a text change only the places of its tokens. -/
theorem readFrom_blank_append {gap : List Char} (blank : Blank gap) (s : State) (here : Position)
    (cs : List Char) :
    readFrom looks s here (gap ++ cs) = readFrom looks s (here.advance gap) cs := by
  have places : here.advance ((gap ++ cs).takeWhile isBlank) =
      (here.advance gap).advance (cs.takeWhile isBlank) := by
    rw [takeWhile_blank_append blank, Position.advance_append]
  have skipped := skipBlanks_append blank cs
  cases going looks s (here.advance gap) cs with
  | ends blank' => rw [readFrom_end blank', readFrom_end (skipped.trans blank')]
  | unread more missing =>
    rw [readFrom_unread more missing, readFrom_unread (skipped ▸ more) (skipped ▸ missing), places,
      skipped]
  | refused t lexeme rest found refused =>
    rw [readFrom_refused found refused, readFrom_refused (skipped ▸ found) (places ▸ refused),
      places]
  | shifts t lexeme rest next found shifted =>
    rw [readFrom_shift found shifted, readFrom_shift (skipped ▸ found) (places ▸ shifted), places]

/-! ## Other places -/

theorem unread_after {q : Position} (h : q.Counted) (p : Position) (sought : List Terminal)
    (cs : List Char) : unread sought (p.after q) cs = (unread sought q cs).after p := by
  unfold unread
  split
  · rw [Rejection.after, Token.placed_read h]
  · rfl

/-- Where a text stands changes only the places that are told about it. -/
theorem readFrom_after (p : Position) (s : State) {here : Position} (h : here.Counted)
    (cs : List Char) :
    readFrom State.seeks (s.placed p.after) (p.after here) cs =
      ((readFrom State.seeks s here cs).map (List.map (Item.placed p.after))).mapError
        (Rejection.after p) := by
  -- Along the run the two states differ in the places of their tokens alone.
  have counted := Position.counted_advance h (cs.takeWhile isBlank)
  have places := Position.after_advance h p (cs.takeWhile isBlank)
  have sought := congrArg (Terminal.byPriority.filter ·) (State.seeks_placed p.after s)
  have moved (t : Terminal) (lexeme : List Char) :
      (s.placed p.after).shift t (.read t lexeme ((p.after here).advance (cs.takeWhile isBlank))) =
        (s.shift t (.read t lexeme (here.advance (cs.takeWhile isBlank)))).map
          (State.placed p.after) := by
    rw [← places, ← Token.placed_read counted, State.shift_placed]
  cases going State.seeks s here cs with
  | ends blank =>
    rw [readFrom_end blank, readFrom_end blank, State.items?_placed, State.acceptable_placed]
    cases s.items? <;> rfl
  | unread more missing =>
    rw [readFrom_unread more missing, readFrom_unread more (sought ▸ missing), sought, ← places,
      unread_after counted]
    rfl
  | refused t lexeme rest found refused =>
    rw [readFrom_refused found refused,
      readFrom_refused (sought ▸ found) (by rw [moved, refused]; rfl), ← places,
      ← Token.placed_read counted, State.acceptable_placed]
    rfl
  | shifts t lexeme rest next found shifted =>
    have shorter := length_lt_of_firstScan found
    rw [readFrom_shift found shifted, readFrom_shift (sought ▸ found) (by rw [moved, shifted]; rfl),
      ← places, ← Position.after_advance counted,
      readFrom_after p next (Position.counted_advance counted lexeme)]
termination_by cs.length

/-! ## Other items before -/

/-- Items before a text do not change how it is read. -/
theorem readFrom_above (below : List Item) (s : State) (here : Position) (cs : List Char) :
    readFrom State.seeks (s.above below) here cs =
      (readFrom State.seeks s here cs).map (below.reverse ++ ·) := by
  have sought := congrArg (Terminal.byPriority.filter ·) (State.seeks_above below s)
  have shift := State.shift_above below s
  cases going State.seeks s here cs with
  | ends blank =>
    rw [readFrom_end blank, readFrom_end blank, State.items?_above, State.acceptable_above]
    cases s.items? <;> rfl
  | unread more missing =>
    rw [readFrom_unread more missing, readFrom_unread more (sought ▸ missing), sought]
    rfl
  | refused t lexeme rest found refused =>
    rw [readFrom_refused found refused,
      readFrom_refused (sought ▸ found) (by rw [shift, refused]; rfl), State.acceptable_above]
    rfl
  | shifts t lexeme rest next found shifted =>
    have shorter := length_lt_of_firstScan found
    rw [readFrom_shift found shifted,
      readFrom_shift (sought ▸ found) (by rw [shift, shifted]; rfl), readFrom_above below next]
termination_by cs.length

/-! ## Behind a value -/

/-- Behind a value a text is read like at the beginning of a line. Only what is expected where it
is rejected differs. -/
theorem readFrom_afterValue (items : List Item) (here : Position) (cs : List Char) :
    (readFrom State.seeks (.between items true) here cs).mapError (Rejection.expecting []) =
      (readFrom State.seeks (.between items false) here cs).mapError (Rejection.expecting []) := by
  have all : Terminal.byPriority.filter (State.seeks (.between items true)) =
      Terminal.byPriority := rfl
  have accepts : (State.between items false).seeks = (State.between items true).accepts := rfl
  cases going State.seeks (.between items false) here cs with
  | ends blank => rw [readFrom_end blank, readFrom_end blank]; rfl
  | unread more missing =>
    -- Behind a value something more may be found here, but nothing that can stand here.
    rw [readFrom_unread more missing]
    cases going State.seeks (.between items true) here cs with
    | ends blank => exact absurd blank more
    | unread more missing' =>
      rw [readFrom_unread more missing']
      simp only [unread]
      cases firstScan Terminal.byPriority (skipBlanks cs) <;> rfl
    | refused t lexeme rest found refused =>
      rw [readFrom_refused found refused]
      rw [all] at found
      simp only [unread, found]
      rfl
    | shifts t lexeme rest next found shifted =>
      have taken := State.accepts_of_shift shifted
      simp [accepts, (State.firstScan_seeks_iff taken).1 found] at missing
  | refused t lexeme rest found refused =>
    obtain ⟨member, -⟩ := firstScan_eq_some found
    have taken := (List.mem_filter.1 member).2
    rw [← Option.not_isSome_iff_eq_none, State.shift_isSome] at refused
    exact absurd taken refused
  | shifts t lexeme rest next found shifted =>
    have taken : (State.between items true).accepts t = true := by
      rw [← accepts]
      obtain ⟨member, -⟩ := firstScan_eq_some found
      exact (List.mem_filter.1 member).2
    have found' := (State.firstScan_seeks_iff taken).2 (accepts ▸ found)
    rw [readFrom_shift found shifted,
      readFrom_shift found' (State.shift_between items true false t _ ▸ shifted)]

/-! ## Text behind -/

theorem takeWhile_blank_append_rest (more : skipBlanks cs ≠ []) (rest : List Char) :
    (cs ++ rest).takeWhile isBlank = cs.takeWhile isBlank ∧
      skipBlanks (cs ++ rest) = skipBlanks cs ++ rest := by
  induction cs with
  | nil => exact absurd rfl more
  | cons c cs ih =>
    by_cases blank : isBlank c = true
    · simpa [skipBlanks, blank] using ih (by simpa [skipBlanks, blank] using more)
    · simp [skipBlanks, blank]

/-- What may follow a token at the end of a text or within it may follow it still when a word ends
behind the text. -/
theorem follow_append {t : Terminal} {cs rest : List Char} (h : t.follow cs = true)
    (ends : Terminal.endsWord rest = true) : t.follow (cs ++ rest) = true := by
  have ends' := Terminal.endsValue_of_endsWord ends
  cases t with
  | key => exact (Terminal.noSlashes_append cs rest ends').trans h
  | flag => exact (Terminal.endsWord_append cs rest ends).trans h
  | openBracket => rfl
  | comma => rfl
  | closeBracket => exact (Terminal.endsValue_append cs rest ends').trans h
  | scalar form => exact (Terminal.endsValue_append cs rest ends').trans h

/-- Where a token is found, the same token is found when a word ends behind the text. -/
theorem firstScan_append {sought : Terminal → Bool} {rest' : List Char}
    (found : firstScan (Terminal.byPriority.filter sought) cs = some (t, lexeme, rest'))
    (ends : Terminal.endsWord rest = true) :
    firstScan (Terminal.byPriority.filter sought) (cs ++ rest) =
      some (t, lexeme, rest' ++ rest) := by
  obtain ⟨-, split, -⟩ := firstScan_eq_some found
  obtain ⟨scanned, -⟩ := follow_of_firstScan found
  have follows := follow_append (Scanner.before_eq_some.1 scanned).2 ends
  rw [split] at found
  rw [split, List.append_assoc]
  exact firstScan_transfer found follows

/-- Behind a text that is accepted, more text is read from a state between items. -/
theorem readFrom_append_of_ok (s : State) (here : Position) (cs : List Char) {items : List Item}
    (accepted : readFrom State.seeks s here cs = .ok items) {rest : List Char}
    (ends : Terminal.endsWord rest = true) :
    ∃ afterValue, readFrom State.seeks s here (cs ++ rest) =
      readFrom State.seeks (.between items.reverse afterValue) (here.advance cs) rest := by
  cases going State.seeks s here cs with
  | ends blank =>
    rw [readFrom_end blank] at accepted
    cases s with
    | between items' afterValue =>
      obtain rfl : items'.reverse = items := by simpa [State.items?] using accepted
      refine ⟨afterValue, ?_⟩
      rw [readFrom_blank_append (skipBlanks_eq_nil_iff.1 blank), List.reverse_reverse]
    | _ => simp [State.items?] at accepted
  | unread more missing => simp [readFrom_unread more missing] at accepted
  | refused t lexeme rest' found refused => simp [readFrom_refused found refused] at accepted
  | shifts t lexeme rest' next found shifted =>
    have shorter := length_lt_of_firstScan found
    obtain ⟨-, split, nonempty⟩ := firstScan_eq_some found
    have more : skipBlanks cs ≠ [] := by simp [split, nonempty]
    obtain ⟨gap, skipped⟩ := takeWhile_blank_append_rest more rest
    have found' := firstScan_append found ends
    rw [← skipped] at found'
    have whole : here.advance cs =
        ((here.advance (cs.takeWhile isBlank)).advance lexeme).advance rest' := by
      rw [← Position.advance_append, ← Position.advance_append, ← split, skipBlanks,
        List.takeWhile_append_dropWhile]
    rw [readFrom_shift found shifted] at accepted
    obtain ⟨afterValue, tail⟩ := readFrom_append_of_ok next _ rest' accepted ends
    refine ⟨afterValue, ?_⟩
    rw [readFrom_shift found' (gap ▸ shifted), gap, tail, whole]
termination_by cs.length

end CommandLine.Item
