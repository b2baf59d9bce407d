import CommandLine.Proofs.Item.Acceptance
import CommandLine.Proofs.Item.Boundary

/-!
# The course of reading

The stages that the reading of a text goes through, one token after the other, and how it ends:
`Stage.result_eq_iff`. A stage is reached as well when the text behind it is another one
(`Reaches.replace`), and two texts with the same front lead to the same state behind it
(`Reaches.state_eq`).
-/

namespace CommandLine
open CommandLine.Text

namespace State

variable {t : Terminal} {s : State} {gap other : List Char}

/-- What may stand behind the token that led to a state. -/
def resumes : State → List Char → Bool
  | between _ true => Terminal.endsValue
  | between _ false => Terminal.endsWord
  | awaiting _ _ => fun cs => cs.head? != some '/'
  | within _ _ _ => Terminal.endsValue

theorem follow_of_resumes {next : State} {token : Token}
    (shifted : s.shift t token = some next) (h : next.resumes other = true) :
    t.follow other = true := by
  have filled {items : List Item} {slot : Slot} {value : Phrase}
      (h : (fill items slot value).resumes other = true) : Terminal.endsValue other = true := by
    cases slot <;> exact h
  cases shifts_of_shift shifted with
  | key items afterValue => exact Terminal.noSlashes_of_head? (by simpa [resumes] using h)
  | flag items afterValue => exact h
  | argument items afterValue form => exact filled h
  | openArgument items afterValue => rfl
  | scalar items slot form => exact filled h
  | openElement items slot => rfl
  | comma items elements outer => rfl
  | closeBracket items elements outer => exact filled h

theorem head?_of_resumes (h : s.resumes other = true) : other.head? ≠ some '/' := by
  cases s with
  | between items afterValue =>
    cases afterValue with
    | true => exact Terminal.head?_ne_slash_of_endsValue h
    | false => exact Terminal.head?_ne_slash_of_endsValue (Terminal.endsValue_of_endsWord h)
  | awaiting items slot => simpa [resumes] using h
  | within items elements outer => exact Terminal.head?_ne_slash_of_endsValue h

/-- Whatever begins with a blank may stand behind a state. -/
theorem resumes_of_blank (s : State) {c : Char} (blank : isBlank c = true) (cs : List Char) :
    s.resumes (c :: cs) = true := by
  have word : Terminal.endsWord (c :: cs) = true := blank
  have value := Terminal.endsValue_of_endsWord word
  cases s with
  | between items afterValue =>
    cases afterValue with
    | true => exact value
    | false => exact word
  | awaiting items slot => simpa [resumes] using Terminal.head?_ne_slash_of_endsValue value
  | within items elements outer => exact value

theorem resumes_append (blank : Blank gap) (h : s.resumes other = true) :
    s.resumes (gap ++ other) = true := by
  cases gap with
  | nil => exact h
  | cons c gap => exact s.resumes_of_blank (blank c List.mem_cons_self) _

end State

namespace Item

/-! ## Stages -/

/-- How far the reading of a text has come: the state, the place, and what is left of the text. -/
structure Stage where
  state : State
  here : Position
  left : List Char

namespace Stage

/-- The stage before the first token of a text. -/
def first (cs : List Char) : Stage := ⟨.initial, .start, cs⟩

/-- The same stage with another text left. -/
def leaving (a : Stage) (cs : List Char) : Stage := ⟨a.state, a.here, cs⟩

/-- The blanks before the next token. -/
def gap (a : Stage) : List Char := a.left.takeWhile isBlank

/-- What is left from the next token on. -/
def ahead (a : Stage) : List Char := skipBlanks a.left

/-- The place of the next token. -/
def there (a : Stage) : Position := a.here.advance a.gap

/-- The next token among those that are looked for: its terminal, its lexeme, and what follows. -/
def found? (a : Stage) : Option (Terminal × List Char × List Char) :=
  firstScan (Terminal.byPriority.filter a.state.seeks) a.ahead

/-- What the text is read to from a stage on. -/
def result (a : Stage) : Except Rejection (List Item) :=
  readFrom State.seeks a.state a.here a.left

theorem gap_append_ahead (a : Stage) : a.gap ++ a.ahead = a.left :=
  List.takeWhile_append_dropWhile

theorem blank_gap (a : Stage) : Blank a.gap := List.all_eq_true.1 List.all_takeWhile

theorem visible_of_ahead {a : Stage} {c : Char} {tail : List Char} (ahead : a.ahead = c :: tail) :
    isBlank c = false := by
  have first := List.head?_dropWhile_not isBlank a.left
  have dropped : a.left.dropWhile isBlank = c :: tail := ahead
  rwa [dropped] at first

end Stage

/-- A token leads from one stage to the next. -/
structure Steps (a : Stage) (t : Terminal) (lexeme : List Char) (b : Stage) : Prop where
  found : a.found? = some (t, lexeme, b.left)
  shifted : a.state.shift t (.read t lexeme a.there) = some b.state
  place : b.here = a.there.advance lexeme

/-- Some tokens, one after the other, lead from one stage to another. -/
inductive Reaches : Stage → Stage → Prop where
  | refl (a : Stage) : Reaches a a
  | step {a b c : Stage} {t : Terminal} {lexeme : List Char} (first : Steps a t lexeme b)
      (more : Reaches b c) : Reaches a c

/-- How the reading of a text ends at a stage. -/
inductive Ends (a : Stage) : Except Rejection (List Item) → Prop where
  | accepted {items : List Item} (nothing : a.ahead = []) (finished : a.state.items? = some items) :
    Ends a (.ok items)
  | unfinished (nothing : a.ahead = []) (unfinished : a.state.items? = none) :
    Ends a (.error (.endOfInput a.state.acceptable))
  | unread (more : a.ahead ≠ []) (missing : a.found? = none) :
    Ends a (.error (unread (Terminal.byPriority.filter a.state.seeks) a.there a.ahead))
  | refused {t : Terminal} {lexeme rest : List Char} (found : a.found? = some (t, lexeme, rest))
      (refused : a.state.shift t (.read t lexeme a.there) = none) :
    Ends a (.error (.token (.read t lexeme a.there) a.state.acceptable))

variable {a b c : Stage} {t : Terminal} {lexeme rest other : List Char}

theorem Steps.ahead_eq (h : Steps a t lexeme b) : a.ahead = lexeme ++ b.left :=
  (firstScan_eq_some h.found).2.1

theorem Steps.split (h : Steps a t lexeme b) :
    a.left = a.gap ++ (lexeme ++ b.left) ∧ lexeme ≠ [] := by
  obtain ⟨-, split, nonempty⟩ := firstScan_eq_some h.found
  exact ⟨by rw [← split, a.gap_append_ahead], nonempty⟩

theorem Steps.result_eq (h : Steps a t lexeme b) : a.result = b.result := by
  rw [Stage.result, readFrom_shift h.found h.shifted]
  exact congrArg (readFrom State.seeks b.state · b.left) h.place.symm

theorem Reaches.result_eq (h : Reaches a b) : a.result = b.result := by
  induction h with
  | refl => rfl
  | step first more ih => exact first.result_eq.trans ih

theorem Ends.result_eq {result : Except Rejection (List Item)} (h : Ends a result) :
    a.result = result := by
  cases h with
  | accepted nothing finished => rw [Stage.result, readFrom_end nothing, finished]
  | unfinished nothing unfinished => rw [Stage.result, readFrom_end nothing, unfinished]
  | unread more missing => exact readFrom_unread more missing
  | refused found refused => exact readFrom_refused found refused

theorem exists_ends (a : Stage) : ∃ b, Reaches a b ∧ Ends b a.result := by
  cases going State.seeks a.state a.here a.left with
  | ends blank =>
    have nothing : a.ahead = [] := blank
    refine ⟨a, .refl a, ?_⟩
    rw [Stage.result, readFrom_end blank]
    cases items : a.state.items? with
    | some items => exact .accepted nothing ‹_›
    | none => exact .unfinished nothing items
  | unread more missing =>
    have ends : Ends a _ := .unread more missing
    exact ⟨a, .refl a, ends.result_eq ▸ ends⟩
  | refused t lexeme rest found refused =>
    have ends : Ends a _ := .refused found refused
    exact ⟨a, .refl a, ends.result_eq ▸ ends⟩
  | shifts t lexeme rest next found shifted =>
    have shorter := length_lt_of_firstScan found
    have first : Steps a t lexeme ⟨next, a.there.advance lexeme, rest⟩ := ⟨found, shifted, rfl⟩
    obtain ⟨b, more, ends⟩ := exists_ends ⟨next, a.there.advance lexeme, rest⟩
    exact ⟨b, .step first more, first.result_eq ▸ ends⟩
termination_by a.left.length

/-- What a text is read to from a stage on is told where the reading ends. -/
theorem Stage.result_eq_iff {result : Except Rejection (List Item)} :
    a.result = result ↔ ∃ b, Reaches a b ∧ Ends b result := by
  constructor
  · rintro rfl
    exact exists_ends a
  · rintro ⟨b, reaches, ends⟩
    exact reaches.result_eq.trans ends.result_eq

/-! ## What was read -/

theorem Reaches.exists_taken (h : Reaches a b) :
    ∃ taken, a.left = taken ++ b.left ∧ b.here = a.here.advance taken := by
  induction h with
  | refl => exact ⟨[], rfl, rfl⟩
  | @step a b c t lexeme first more ih =>
    obtain ⟨taken, left, here⟩ := ih
    refine ⟨a.gap ++ lexeme ++ taken, ?_, ?_⟩
    · rw [first.split.1, left]
      simp
    · rw [here, first.place, Stage.there, ← Position.advance_append, ← Position.advance_append,
        List.append_assoc]

theorem Reaches.eq_of_left (h : Reaches a b) (same : a.left = b.left) : a = b := by
  cases h with
  | refl => rfl
  | step first more =>
    obtain ⟨split, nonempty⟩ := first.split
    obtain ⟨taken, left, -⟩ := more.exists_taken
    have shorter := congrArg List.length (split.symm.trans same)
    have positive := List.length_pos_iff.2 nonempty
    rw [left] at shorter
    simp only [List.length_append] at shorter
    omega

/-! ## Other texts behind a stage -/

theorem Steps.found_lexeme (h : Steps a t lexeme b) :
    firstScan (Terminal.byPriority.filter a.state.seeks) (lexeme ++ b.left) =
      some (t, lexeme, b.left) := h.ahead_eq ▸ h.found

/-- A lexeme that is found before one text is read behind blanks, before another text that may
follow it. -/
theorem steps_of_found {s next : State} {here : Position} {gap : List Char} (blank : Blank gap)
    (found : firstScan (Terminal.byPriority.filter s.seeks) (lexeme ++ rest) =
      some (t, lexeme, rest))
    (shifted : s.shift t (.read t lexeme (here.advance gap)) = some next)
    (follows : t.follow other = true) :
    Steps ⟨s, here, gap ++ (lexeme ++ other)⟩ t lexeme
      ⟨next, (here.advance gap).advance lexeme, other⟩ := by
  obtain ⟨before, ahead⟩ := skipBlanks_lexeme blank found other
  have there : Stage.there ⟨s, here, gap ++ (lexeme ++ other)⟩ = here.advance gap :=
    congrArg here.advance before
  refine ⟨?_, there ▸ shifted, there ▸ rfl⟩
  rw [Stage.found?, Stage.ahead, ahead]
  exact firstScan_transfer found follows

/-- A token is read as well when something else follows that may. -/
theorem Steps.replace (h : Steps a t lexeme b) (follows : t.follow other = true) :
    Steps (a.leaving (a.gap ++ (lexeme ++ other))) t lexeme (b.leaving other) := by
  have step := steps_of_found a.blank_gap h.found_lexeme h.shifted follows
  rw [show (a.here.advance a.gap).advance lexeme = b.here from h.place.symm] at step
  exact step

/-- A stage is reached as well when another text is left there that may stand behind its state. -/
theorem Reaches.replace (h : Reaches a b) {taken : List Char} (split : a.left = taken ++ b.left)
    (resumes : b.state.resumes other = true) :
    Reaches (a.leaving (taken ++ other)) (b.leaving other) := by
  induction h generalizing taken with
  | refl a =>
    obtain rfl : taken = [] := by simpa using split
    exact .refl _
  | @step a b c t lexeme first more ih =>
    -- The first token ends as before: either more is read behind it that stays the same, or what
    -- may stand behind the state may follow the token.
    obtain ⟨taken', left, -⟩ := more.exists_taken
    obtain ⟨whole, -⟩ := first.split
    obtain rfl : taken = a.gap ++ (lexeme ++ taken') := by
      rw [whole, left, ← List.append_assoc, ← List.append_assoc] at split
      simpa using (List.append_cancel_right split).symm
    have follows : t.follow (taken' ++ other) = true := by
      cases taken' with
      | nil =>
        obtain rfl := more.eq_of_left left
        exact State.follow_of_resumes first.shifted resumes
      | cons d taken' =>
        have followed := (follow_of_firstScan first.found).2
        rw [left] at followed
        exact Terminal.follow_front followed fun _ _ => State.head?_of_resumes resumes
    have step := first.replace follows
    rw [List.append_assoc, List.append_assoc]
    exact .step step (ih left resumes)

/-! ## Texts with the same front -/

theorem Steps.exists_front (first : Steps a t lexeme b) (more : Reaches b c) {front : List Char}
    (left : a.left = front ++ c.ahead) :
    ∃ rest, front = a.gap ++ (lexeme ++ rest) ∧ b.left = rest ++ c.ahead := by
  obtain ⟨taken, between, -⟩ := more.exists_taken
  rw [← c.gap_append_ahead, ← List.append_assoc] at between
  refine ⟨taken ++ c.gap, ?_, between⟩
  rw [first.split.1, between, ← List.append_assoc, ← List.append_assoc] at left
  simpa using (List.append_cancel_right left).symm

theorem Steps.not_blank (first : Steps a t lexeme b) {front rest : List Char}
    (split : front = a.gap ++ (lexeme ++ rest)) : ¬ Blank front := by
  intro blank
  obtain ⟨visible, -⟩ := skipBlanks_of_firstScan first.found_lexeme rest
  have nothing := skipBlanks_eq_nil_iff.2 blank
  rw [split, skipBlanks_append a.blank_gap, visible] at nothing
  exact first.split.2 (List.append_eq_nil_iff.1 nothing).1

theorem Stage.eq_gap {front : List Char} (left : a.left = front ++ a.ahead) : front = a.gap := by
  rw [← a.gap_append_ahead] at left
  exact (List.append_cancel_right left).symm

/-- Two texts with the same front, in which reading comes to the end of that front, are in the same
state there. -/
theorem Reaches.state_eq {a' b' : Stage} {front : List Char} (h : Reaches a b)
    (h' : Reaches a' b') (state : a.state = a'.state) (here : a.here = a'.here)
    (left : a.left = front ++ b.ahead) (left' : a'.left = front ++ b'.ahead) :
    b.state = b'.state := by
  -- As long as one of the two runs goes on, the other one reads the same token.
  induction h generalizing a' front with
  | refl a =>
    cases h' with
    | refl => exact state
    | step first more =>
      obtain ⟨rest, split, -⟩ := first.exists_front more left'
      exact absurd (Stage.eq_gap left ▸ a.blank_gap) (first.not_blank split)
  | @step a b c t lexeme first more ih =>
    obtain ⟨rest, split, behind⟩ := first.exists_front more left
    cases h' with
    | refl => exact absurd (Stage.eq_gap left' ▸ Stage.blank_gap _) (first.not_blank split)
    | @step _ b₁ _ t₁ lexeme₁ first₁ more₁ =>
      obtain ⟨rest₁, split₁, behind₁⟩ := first₁.exists_front more₁ left'
      obtain ⟨-, visible⟩ := skipBlanks_of_firstScan first.found_lexeme rest
      obtain ⟨-, visible₁⟩ := skipBlanks_of_firstScan first₁.found_lexeme rest₁
      have gap : a.gap = a'.gap := by
        have cut := congrArg (List.takeWhile isBlank) (split.symm.trans split₁)
        rw [takeWhile_blank_append a.blank_gap, takeWhile_blank_append a'.blank_gap, visible,
          visible₁] at cut
        simpa using cut
      have same : lexeme ++ rest = lexeme₁ ++ rest₁ := by
        rw [split, gap] at split₁
        exact List.append_cancel_left split₁
      have found := first.found_lexeme
      have found₁ := first₁.found_lexeme
      rw [behind] at found
      rw [behind₁, ← state] at found₁
      obtain ⟨rfl, rfl, rfl⟩ := firstScan_front found found₁ same
      have there : a.there = a'.there := by rw [Stage.there, Stage.there, here, gap]
      have next : b.state = b₁.state := by
        have shifted := first₁.shifted
        rw [← state, ← there, first.shifted] at shifted
        exact Option.some.inj shifted
      have place : b.here = b₁.here := by rw [first.place, first₁.place, there]
      exact ih more₁ next place behind behind₁

end Item

end CommandLine
