import CommandLine.Proofs.Item.Course
import CommandLine.Proofs.Terminal.Spelling

/-!
# What can stand behind a text

Whatever was read up to a stage can be completed to an accepted line (`ofText_completion`), and
the symbols that can come next are those that the state accepts (`exists_continuation`,
`accepts_of_readsToken`).
-/

namespace CommandLine
open CommandLine.Text

/-! ## Samples and completions -/

namespace Terminal

/-- A text that is read as a token of a terminal. -/
def sample : Terminal → List Char
  | key => ['x', ':']
  | flag => ['-', 'x']
  | openBracket => ['[']
  | closeBracket => [']']
  | comma => [',']
  | scalar .range => ['1', '.', '.', '2']
  | scalar .rangeTo => ['.', '.', '2']
  | scalar .bool => ['t', 'r', 'u', 'e']
  | scalar .float => ['1', '.', '5']
  | scalar .int => ['1']
  | scalar .quoted => ['"', '"']
  | scalar .bareword => ['x']

theorem reads_sample (t : Terminal) : t.Reads t.sample := by
  unfold Reads
  cases t with
  | scalar form => cases form <;> decide +kernel
  | _ => decide +kernel

end Terminal

/-- The brackets that close the lists that are open around a value. -/
def Slot.closing : Slot → List Char
  | argument => []
  | keyword _ => []
  | element _ outer => Terminal.closeBracket.sample ++ outer.closing

/-- A text that completes what was read before a state. -/
def State.completion : State → List Char
  | between _ _ => []
  | awaiting _ slot => (Terminal.scalar .int).sample ++ slot.closing
  | within _ _ outer => Terminal.closeBracket.sample ++ outer.closing

theorem Slot.endsValue_closing (slot : Slot) : Terminal.endsValue slot.closing = true := by
  cases slot <;> rfl

theorem State.resumes_completion (s : State) : s.resumes s.completion = true := by
  cases s with
  | between items afterValue => cases afterValue <;> rfl
  | _ => rfl

namespace Item

variable {a : Stage} {s next : State} {here : Position} {t : Terminal}
  {front gap lexeme rest : List Char} {cs : List Char}

/-- A text that reads as a token is read in a state in which it can stand. -/
theorem steps_of_reads (reads : t.Reads lexeme) (blank : Blank gap)
    (shifted : s.shift t (.read t lexeme (here.advance gap)) = some next)
    (follows : t.follow rest = true) :
    Steps ⟨s, here, gap ++ (lexeme ++ rest)⟩ t lexeme
      ⟨next, (here.advance gap).advance lexeme, rest⟩ := by
  have sought := State.seeks_of_accepts (State.accepts_of_shift shifted)
  have found : firstScan (Terminal.byPriority.filter s.seeks) (lexeme ++ []) =
      some (t, lexeme, []) := by simpa using firstScan_filter reads sought
  exact steps_of_found blank found shifted follows

theorem readFrom_of_reads (reads : t.Reads lexeme)
    (shifted : s.shift t (.read t lexeme here) = some next) (follows : t.follow rest = true) :
    readFrom State.seeks s here (lexeme ++ rest) =
      readFrom State.seeks next (here.advance lexeme) rest :=
  have nothing : Blank [] := by simp [Blank]
  (steps_of_reads reads nothing shifted follows).result_eq

theorem readFrom_closing (slot : Slot) (items : List Item) (value : Phrase) (here : Position) :
    ∃ more, readFrom State.seeks (State.fill items slot value) here slot.closing = .ok more := by
  induction slot generalizing value here with
  | argument => exact ⟨_, readFrom_end rfl⟩
  | keyword key => exact ⟨_, readFrom_end rfl⟩
  | element before outer ih =>
    obtain ⟨more, read⟩ := ih (.list (value :: before).reverse) _
    refine ⟨more, ?_⟩
    rw [Slot.closing, State.fill,
      readFrom_of_reads Terminal.closeBracket.reads_sample rfl outer.endsValue_closing]
    exact read

theorem readFrom_completion (s : State) (here : Position) :
    ∃ items, readFrom State.seeks s here s.completion = .ok items := by
  cases s with
  | between items afterValue => exact ⟨_, readFrom_end rfl⟩
  | awaiting items slot =>
    obtain ⟨more, read⟩ := readFrom_closing slot items _ _
    refine ⟨more, ?_⟩
    rw [State.completion,
      readFrom_of_reads (Terminal.scalar .int).reads_sample rfl slot.endsValue_closing]
    exact read
  | within items elements outer =>
    obtain ⟨more, read⟩ := readFrom_closing outer items _ _
    refine ⟨more, ?_⟩
    rw [State.completion,
      readFrom_of_reads Terminal.closeBracket.reads_sample rfl outer.endsValue_closing]
    exact read

/-! ## Behind a stage -/

theorem Reaches.exists_front (h : Reaches (.first cs) a) :
    ∃ front, cs = front ++ a.ahead ∧ a.there.offset = front.length := by
  obtain ⟨taken, left, here⟩ := h.exists_taken
  rw [← a.gap_append_ahead, ← List.append_assoc] at left
  refine ⟨taken ++ a.gap, left, ?_⟩
  rw [Stage.there, here, ← Position.advance_append]
  exact Position.offset_start_advance _

theorem Reaches.offset_eq (h : Reaches (.first (front ++ a.ahead)) a) :
    a.there.offset = front.length := by
  obtain ⟨front', split, offset⟩ := h.exists_front
  rw [offset, List.append_cancel_right split]

/-- A stage is reached behind the same front of another text. -/
theorem Reaches.replace_ahead {other : List Char} (h : Reaches (.first (front ++ a.ahead)) a)
    (resumes : a.state.resumes (a.gap ++ other) = true) :
    Reaches (.first (front ++ other)) (a.leaving (a.gap ++ other)) := by
  obtain ⟨taken, left, -⟩ := h.exists_taken
  have split : front ++ a.ahead = taken ++ a.gap ++ a.ahead := by
    rw [List.append_assoc, a.gap_append_ahead]
    exact left
  obtain rfl := List.append_cancel_right split
  rw [List.append_assoc]
  exact h.replace left resumes

theorem ofText_completion (h : Reaches (.first (front ++ a.ahead)) a) :
    ∃ items, ofText (front ++ a.state.completion) = .ok items := by
  have reached := h.replace_ahead (State.resumes_append a.blank_gap a.state.resumes_completion)
  obtain ⟨items, read⟩ := readFrom_completion a.state (a.here.advance a.gap)
  refine ⟨items, reached.result_eq.trans ?_⟩
  exact (readFrom_blank_append a.blank_gap a.state a.here _).trans read

/-- The front of a text up to a stage is a line of its own exactly if the line may end there. -/
theorem ofText_front_iff (h : Reaches (.first (front ++ a.ahead)) a) :
    (∃ items, ofText front = .ok items) ↔ a.state.items?.isSome = true := by
  have nothing : a.state.resumes [] = true := by
    cases a.state with
    | between items afterValue => cases afterValue <;> rfl
    | _ => rfl
  have reached := h.replace_ahead (State.resumes_append a.blank_gap nothing)
  rw [List.append_nil, List.append_nil] at reached
  have ends : (a.leaving a.gap).ahead = [] := skipBlanks_eq_nil_iff.2 a.blank_gap
  cases finished : a.state.items? with
  | some items =>
    have read : ofText front = .ok items :=
      reached.result_eq.trans (Ends.accepted ends finished).result_eq
    simp [read]
  | none =>
    have read : ofText front = .error (.endOfInput a.state.acceptable) :=
      reached.result_eq.trans (Ends.unfinished ends finished).result_eq
    simp [read]

/-- In the reading of a text a token of a terminal is read at an offset, with a given lexeme. -/
def ReadsToken (cs : List Char) (t : Terminal) (lexeme : List Char) (offset : Nat) : Prop :=
  ∃ a b, Reaches (.first cs) a ∧ Steps a t lexeme b ∧ a.there.offset = offset

/-- What a state accepts can come next on a line that is accepted. -/
theorem exists_continuation (h : Reaches (.first (front ++ a.ahead)) a)
    (accepts : a.state.accepts t = true) :
    ∃ gap lexeme rest, Blank gap ∧
      (∃ items, ofText (front ++ gap ++ (lexeme ++ rest)) = .ok items) ∧
      ReadsToken (front ++ gap ++ (lexeme ++ rest)) t lexeme (front ++ gap).length := by
  -- One blank, a sample of the terminal, and what completes the line behind it.
  have blank : Blank (a.gap ++ [' ']) :=
    List.forall_mem_append.2 ⟨a.blank_gap, Layout.blank_space⟩
  obtain ⟨next, shifted⟩ :=
    State.exists_shift accepts (.read t t.sample (a.here.advance (a.gap ++ [' '])))
  have follows := State.follow_of_resumes shifted next.resumes_completion
  have step := steps_of_reads t.reads_sample blank shifted follows
  have reached := h.replace_ahead (State.resumes_append a.blank_gap
    (a.state.resumes_of_blank (c := ' ') rfl (t.sample ++ next.completion)))
  rw [List.append_cons a.gap, List.append_cons front] at reached
  have reached' : Reaches (.first (front ++ [' '] ++ Stage.ahead ⟨a.state, a.here,
      a.gap ++ [' '] ++ (t.sample ++ next.completion)⟩)) ⟨a.state, a.here,
      a.gap ++ [' '] ++ (t.sample ++ next.completion)⟩ := by
    rw [step.ahead_eq]
    exact reached
  refine ⟨[' '], t.sample, next.completion, Layout.blank_space, ?_, ?_⟩
  · obtain ⟨items, read⟩ := readFrom_completion next _
    exact ⟨items, reached.result_eq.trans (step.result_eq.trans read)⟩
  · exact ⟨_, _, reached, step, reached'.offset_eq⟩

/-- What comes next on another line behind the same front, blanks apart, is accepted by the
state. -/
theorem accepts_of_readsToken (h : Reaches (.first (front ++ a.ahead)) a) (blank : Blank gap)
    (reads : ReadsToken (front ++ gap ++ (lexeme ++ rest)) t lexeme (front ++ gap).length) :
    a.state.accepts t = true := by
  obtain ⟨b, c, reached, step, offset⟩ := reads
  obtain ⟨front', line, offset'⟩ := reached.exists_front
  obtain ⟨rfl, ahead⟩ := List.append_inj line (offset.symm.trans offset')
  have state : a.state = b.state := by
    cases gap with
    | nil =>
      rw [List.append_nil, ahead] at reached
      exact h.state_eq reached rfl rfl rfl rfl
    | cons d gap =>
      -- The front is read alike in both lines, and the blanks behind it change no state.
      have replaced := h.replace_ahead (State.resumes_append a.blank_gap
        (a.state.resumes_of_blank (blank d List.mem_cons_self) (gap ++ b.ahead)))
      have visible : skipBlanks b.ahead = b.ahead := by
        have found := step.found_lexeme
        rw [step.ahead_eq]
        exact (skipBlanks_of_firstScan found c.left).1
      have passed : (a.leaving (a.gap ++ d :: (gap ++ b.ahead))).ahead = b.ahead := by
        show skipBlanks (a.gap ++ (d :: gap ++ b.ahead)) = b.ahead
        rw [skipBlanks_append a.blank_gap, skipBlanks_append blank, visible]
      have left : front ++ d :: (gap ++ b.ahead) = front ++ d :: gap ++
          (a.leaving (a.gap ++ d :: (gap ++ b.ahead))).ahead := by
        rw [passed, List.append_assoc, List.cons_append]
      have left' : front ++ d :: gap ++ (lexeme ++ rest) = front ++ d :: gap ++ b.ahead := by
        rw [ahead]
      have same : (a.leaving (a.gap ++ d :: (gap ++ b.ahead))).state = b.state :=
        replaced.state_eq reached rfl rfl left left'
      exact same
  exact state ▸ State.accepts_of_shift step.shifted

end Item

end CommandLine
