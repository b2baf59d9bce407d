import CommandLine.Proofs.Tree.Rejection

/-!
# Looking only for what can stand

Behind a value the reader looks for every terminal, although few of them can stand there. A reader
that looks only for those that can reads the same lines to the same trees and stops at the same
places for the same reasons: `Tree.parseSeeking_accepts`. What it expects there can stand there.
-/

namespace CommandLine
open CommandLine.Text

namespace Item

variable {a b : Stage} {t : Terminal} {lexeme : List Char}

/-- What the text is read to from a stage on when only terminals are looked for that can stand
where they are looked for. -/
def Stage.preciseResult (a : Stage) : Except Rejection (List Item) :=
  readFrom State.accepts a.state a.here a.left

theorem Steps.preciseResult_eq (h : Steps a t lexeme b) : a.preciseResult = b.preciseResult := by
  have taken := State.accepts_of_shift h.shifted
  have found := (State.firstScan_seeks_iff taken).1 h.found
  rw [Stage.preciseResult, readFrom_shift found h.shifted]
  exact congrArg (readFrom State.accepts b.state · b.left) h.place.symm

theorem Reaches.preciseResult_eq (h : Reaches a b) : a.preciseResult = b.preciseResult := by
  induction h with
  | refl => rfl
  | step first more ih => exact first.preciseResult_eq.trans ih

theorem Ends.preciseResult_ok {items : List Item} (h : Ends a (.ok items)) :
    a.preciseResult = .ok items := by
  cases h with
  | accepted nothing finished => rw [Stage.preciseResult, readFrom_end nothing, finished]

/-- A token that is refused is not found when it is not looked for, and nothing else is found in
its place. -/
theorem firstScan_accepts_of_refused {rest : List Char}
    (found : a.found? = some (t, lexeme, rest))
    (refused : a.state.shift t (.read t lexeme a.there) = none) :
    firstScan (Terminal.byPriority.filter a.state.accepts) a.ahead = none ∧
      firstScan Terminal.byPriority a.ahead = some (t, lexeme, rest) := by
  have fails : a.state.accepts t = false := by
    rw [← State.shift_isSome, refused]
    rfl
  obtain ⟨member, split, nonempty⟩ := firstScan_eq_some found
  have sought : a.state.seeks t = true := (List.mem_filter.1 member).2
  constructor
  · rw [firstScan_eq_none_iff]
    intro u among
    cases scanned' : u.scan a.ahead with
    | none => rfl
    | some found' =>
      -- What can stand here would begin with the same character, so the token could stand here.
      have accepts : a.state.accepts u = true := (List.mem_filter.1 among).2
      have scanned := (follow_of_firstScan found).1
      obtain ⟨c, l, rfl⟩ := List.exists_cons_of_ne_nil nonempty
      rw [split, List.cons_append] at scanned scanned'
      simp [State.accepts_of_scan sought scanned accepts scanned'] at fails
  · have behind : a.state.behindValue = true := by
      cases behind : a.state.behindValue with
      | true => rfl
      | false => simp [State.seeks_eq_accepts behind, fails] at sought
    have all : Terminal.byPriority.filter a.state.seeks = Terminal.byPriority :=
      List.filter_eq_self.2 fun u _ => State.seeks_of_behindValue behind u
    rwa [Stage.found?, all] at found

theorem toError_unread (text : String) (here : Position) (cs : List Char)
    (sought sought' : List Terminal) :
    (unread sought' here cs).toError text =
      { (unread sought here cs).toError text with expected := sought'.map .terminal } := by
  unfold unread
  split <;> rfl

/-- Where the reading stops, the precise reading stops for the same reason. It expects nothing but
what the state accepts. -/
theorem Ends.preciseResult_error {rejection : Rejection} (h : Ends a (.error rejection))
    (text : String) :
    ∃ rejection' expected, a.preciseResult = .error rejection' ∧
      rejection'.toError text = { rejection.toError text with expected := expected } ∧
      ∀ x ∈ expected, x ∈ a.state.acceptable := by
  have sound : ∀ x ∈ (Terminal.byPriority.filter a.state.accepts).map Symbol.terminal,
      x ∈ a.state.acceptable := by
    intro x member
    obtain ⟨t, among, rfl⟩ := List.mem_map.1 member
    exact State.terminal_mem_acceptable.2 (List.mem_filter.1 among).2
  cases h with
  | unfinished nothing unfinished =>
    refine ⟨.endOfInput a.state.acceptable, a.state.acceptable, ?_, rfl, fun x member => member⟩
    rw [Stage.preciseResult, readFrom_end nothing, unfinished]
  | unread more missing =>
    have missing' : firstScan (Terminal.byPriority.filter a.state.accepts) a.ahead = none := by
      rw [firstScan_eq_none_iff]
      intro t among
      obtain ⟨member, accepts⟩ := List.mem_filter.1 among
      have sought := List.mem_filter.2 ⟨member, State.seeks_of_accepts accepts⟩
      exact firstScan_eq_none_iff.1 missing t sought
    exact ⟨_, _, readFrom_unread more missing', toError_unread .., sound⟩
  | @refused t lexeme rest found refused =>
    -- Among all terminals the refused token is found again, so its lexeme is told all the same.
    obtain ⟨missing, anyway⟩ := firstScan_accepts_of_refused found refused
    have more : a.ahead ≠ [] := by
      obtain ⟨-, split, nonempty⟩ := firstScan_eq_some found
      simp [split, nonempty]
    refine ⟨_, _, readFrom_unread more missing, ?_, sound⟩
    show (Item.unread _ a.there a.ahead).toError text = _
    simp only [Item.unread, anyway]
    rfl

end Item

namespace Tree
open CommandLine.Item

/-- The tree of a line, where in each state certain terminals are looked for. -/
def parseSeeking (seeks : State → Terminal → Bool) (text : String) : Except ParseError Tree :=
  match readFrom seeks .initial .start text.toList with
  | .ok items => .ok (ofItems items)
  | .error rejection => .error (rejection.toError text)

theorem parse_eq_parseSeeking (text : String) : parse text = parseSeeking State.seeks text := rfl

theorem parseSeeking_accepts_of_ok {text : String} {tree : Tree}
    (accepted : parse text = .ok tree) :
    parseSeeking State.accepts text = .ok tree := by
  obtain ⟨items, read, rfl⟩ := parse_eq_ok_iff.1 accepted
  obtain ⟨a, reached, ends⟩ := (Stage.result_eq_iff (a := .first text.toList)).1 read
  have precise : readFrom State.accepts .initial .start text.toList = .ok items :=
    reached.preciseResult_eq.trans ends.preciseResult_ok
  rw [parseSeeking, precise]

theorem parseSeeking_accepts_of_error {text : String} {error : ParseError}
    (rejected : parse text = .error error) :
    ∃ expected, parseSeeking State.accepts text = .error { error with expected := expected } ∧
      ∀ x ∈ expected, CanFollow (text.toList.take error.offset) x := by
  obtain ⟨a, rejection, reached, ends, rfl⟩ := parse_eq_error_iff.1 rejected
  obtain ⟨rejection', expected, stopped, same, sound⟩ := ends.preciseResult_error text
  obtain ⟨front, split, offset⟩ := reached.exists_front
  have place := (fails_of_ends split offset ends).offset_eq.trans offset
  refine ⟨expected, ?_, fun x member => ?_⟩
  · have precise : readFrom State.accepts .initial .start text.toList = .error rejection' :=
      reached.preciseResult_eq.trans stopped
    rw [parseSeeking, precise, ← same]
  · rw [split] at reached
    rw [place, split, List.take_left, ← mem_acceptable_iff reached]
    exact sound x member

/-- Whether more is looked for than can stand somewhere changes neither which lines are accepted
nor their trees, and of the errors only what is expected: when no more is looked for, all that is
expected can follow. -/
theorem parseSeeking_accepts (text : String) :
    (∀ tree, parseSeeking State.accepts text = .ok tree ↔ parse text = .ok tree) ∧
    ∀ error, parse text = .error error →
      ∃ expected, parseSeeking State.accepts text = .error { error with expected := expected } ∧
        ∀ x ∈ expected, CanFollow (text.toList.take error.offset) x := by
  refine ⟨fun tree => ⟨fun precise => ?_, parseSeeking_accepts_of_ok⟩,
    fun error => parseSeeking_accepts_of_error⟩
  cases said : parse text with
  | ok other =>
    rw [parseSeeking_accepts_of_ok said] at precise
    exact precise
  | error error =>
    obtain ⟨expected, stopped, -⟩ := parseSeeking_accepts_of_error said
    rw [stopped] at precise
    cases precise

end Tree

end CommandLine
