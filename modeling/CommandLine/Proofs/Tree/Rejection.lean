import CommandLine.Command.Reader
import CommandLine.Proofs.Item.Refusal

/-!
# Rejected lines

Where a line is rejected, some line goes on (`Tree.parse_error_location`). All that can stand there
is among the symbols that the error expects (`Tree.expected_of_canFollow`), and nothing else is,
unless a value is followed by a text at which no terminal has a lexeme
(`Tree.expected_sound_iff`).
-/

namespace CommandLine
open CommandLine.Text

/-! ## Acceptable symbols -/

namespace State

variable {s : State}

theorem terminal_mem_acceptable {t : Terminal} :
    .terminal t ∈ s.acceptable ↔ s.accepts t = true := by
  unfold acceptable
  split <;> simp [Terminal.mem_byPriority]

theorem endOfInput_mem_acceptable : .endOfInput ∈ s.acceptable ↔ s.items?.isSome = true := by
  unfold acceptable
  split <;> simp_all

theorem named_notMem_acceptable (name : String) : .named name ∉ s.acceptable := by
  unfold acceptable
  split <;> simp

end State

namespace Reason

theorem ofOffset_end (cs : List Char) : ofOffset cs cs.length = endOfInput := by
  simp [ofOffset]

theorem ofOffset_behind (front : List Char) (c : Char) (tail : List Char) :
    ofOffset (front ++ c :: tail) front.length = unexpected (String.ofList [c]) := by
  simp only [ofOffset, List.getElem?_append_right (Nat.le_refl _), Nat.sub_self,
    List.getElem?_cons_zero, String.singleton_eq_ofList]

/-- No unexpected text makes the message that the text ends. -/
theorem message_unexpected_ne (found : String) :
    (unexpected found).message ≠ endOfInput.message := by
  intro same
  have letters := congrArg String.toList same
  have split : endOfInput.message.toList = "unexpected ".toList ++ "end of input".toList := rfl
  rw [split, message, String.toList_append] at letters
  have quoted := List.append_cancel_left letters
  rw [quote, String.toList_ofList] at quoted
  -- Quoted texts begin with a quotation mark.
  have mark : quoteMark found.toList = 'e' := (List.cons.inj quoted).1
  unfold quoteMark at mark
  split at mark <;> exact absurd mark (by decide)

end Reason

namespace Tree
open CommandLine.Item

variable {text : String} {error : ParseError} {a : Stage} {front : List Char} {x : Symbol}

/-! ## What can follow -/

/-- A text that is a line. -/
def Accepted (cs : List Char) : Prop := ∃ tree, parse (String.ofList cs) = .ok tree

theorem accepted_iff {cs : List Char} : Accepted cs ↔ ∃ items, ofText cs = .ok items := by
  unfold Accepted parse
  rw [String.toList_ofList]
  cases ofText cs <;> simp

/-- What can come next behind the front of a line: a terminal if some line goes on with blanks and
a token of that terminal, the end of the line if the front is a line. -/
def CanFollow (front : List Char) : Symbol → Prop
  | .terminal t => ∃ gap lexeme rest, Blank gap ∧ Accepted (front ++ gap ++ (lexeme ++ rest)) ∧
      ReadsToken (front ++ gap ++ (lexeme ++ rest)) t lexeme (front ++ gap).length
  | .endOfInput => Accepted front
  | .named _ => False

/-- What a stage accepts is what can follow the text before it. -/
theorem mem_acceptable_iff (h : Reaches (.first (front ++ a.ahead)) a) :
    x ∈ a.state.acceptable ↔ CanFollow front x := by
  cases x with
  | terminal t =>
    rw [State.terminal_mem_acceptable]
    constructor
    · intro accepts
      obtain ⟨gap, lexeme, rest, blank, accepted, reads⟩ := exists_continuation h accepts
      exact ⟨gap, lexeme, rest, blank, accepted_iff.2 accepted, reads⟩
    · rintro ⟨gap, lexeme, rest, blank, -, reads⟩
      exact accepts_of_readsToken h blank reads
  | endOfInput =>
    rw [State.endOfInput_mem_acceptable, ← ofText_front_iff h]
    exact accepted_iff.symm
  | named name => exact iff_of_false (State.named_notMem_acceptable name) id

/-! ## What errors tell -/

/-- A token is read in the text that cannot stand where it is found. -/
def Refused (text : String) : Prop :=
  ∃ a t lexeme rest, Reaches (.first text.toList) a ∧ a.found? = some (t, lexeme, rest) ∧
    a.state.shift t (.read t lexeme a.there) = none

/-- The stage behind the first element of a list, before a word that cannot stand there. -/
def wordInList : Stage :=
  ⟨.within [] [.scalar .int (.read (.scalar .int) ['1'] ⟨1, 1, 2⟩)] .argument, ⟨2, 1, 3⟩,
    [' ', 'x', ']']⟩

theorem reaches_wordInList : Reaches (.first "[1 x]".toList) wordInList := by
  have opened : Steps (.first "[1 x]".toList) .openBracket ['[']
      ⟨.awaiting [] (.element [] .argument), ⟨1, 1, 2⟩, ['1', ' ', 'x', ']']⟩ := ⟨rfl, rfl, rfl⟩
  have filled : Steps ⟨.awaiting [] (.element [] .argument), ⟨1, 1, 2⟩, ['1', ' ', 'x', ']']⟩
      (.scalar .int) ['1'] wordInList := ⟨rfl, rfl, rfl⟩
  exact .step opened (.step filled (.refl _))

theorem refused_wordInList : Refused "[1 x]" :=
  ⟨_, .scalar .bareword, ['x'], [']'], reaches_wordInList, rfl, rfl⟩

/-- Reading stops behind a value before a text at which no terminal has a lexeme. -/
def UnreadBehindValue (text : String) : Prop :=
  ∃ a, Reaches (.first text.toList) a ∧ a.state.behindValue = true ∧ a.ahead ≠ [] ∧
    ∀ t : Terminal, t.scan a.ahead = none

/-- What is told about a text whose reading fails at a stage: the text ends, no token is found, or
a token is refused. -/
inductive Fails (text : String) (a : Stage) : ParseError → Prop where
  | atEnd (nothing : a.ahead = []) :
    Fails text a ⟨text, a.there.offset, a.state.acceptable, .endOfInput⟩
  | unread {lexeme rest : List Char} (split : a.ahead = lexeme ++ rest) (nonempty : lexeme ≠ [])
      (missing : a.found? = none) :
    Fails text a ⟨text, a.there.offset,
      (Terminal.byPriority.filter a.state.seeks).map .terminal,
      .unexpected (String.ofList lexeme)⟩
  | refused {t : Terminal} {lexeme rest : List Char} (found : a.found? = some (t, lexeme, rest))
      (refused : a.state.shift t (.read t lexeme a.there) = none) :
    Fails text a ⟨text, a.there.offset, a.state.acceptable, .unexpected (String.ofList lexeme)⟩

theorem Fails.offset_eq (h : Fails text a error) : error.offset = a.there.offset := by
  cases h <;> rfl

theorem Fails.reason_cases (h : Fails text a error) :
    (a.ahead = [] ∧ error.reason = .endOfInput) ∨
      ∃ lexeme rest, a.ahead = lexeme ++ rest ∧ lexeme ≠ [] ∧
        error.reason = .unexpected (String.ofList lexeme) := by
  cases h with
  | atEnd nothing => exact .inl ⟨nothing, rfl⟩
  | unread split nonempty => exact .inr ⟨_, _, split, nonempty, rfl⟩
  | refused found =>
    obtain ⟨-, split, nonempty⟩ := firstScan_eq_some found
    exact .inr ⟨_, _, split, nonempty, rfl⟩

theorem toError_endOfInput (expected : List Symbol) :
    (Rejection.endOfInput expected).toError text = ⟨text, text.length, expected, .endOfInput⟩ := by
  rw [Rejection.toError, ParseError.atOffset, ← String.length_toList, Reason.ofOffset_end]

theorem toError_character {c : Char} {tail : List Char} (split : text.toList = front ++ c :: tail)
    (expected : List Symbol) :
    (Rejection.character front.length expected).toError text =
      ⟨text, front.length, expected, .unexpected (String.ofList [c])⟩ := by
  rw [Rejection.toError, ParseError.atOffset, split, Reason.ofOffset_behind]

theorem Fails.expected_cases (h : Fails text a error) :
    error.expected = a.state.acceptable ∨
      a.ahead ≠ [] ∧ a.found? = none ∧
        error.expected = (Terminal.byPriority.filter a.state.seeks).map .terminal := by
  cases h with
  | atEnd => exact .inl rfl
  | refused => exact .inl rfl
  | unread split nonempty missing =>
    exact .inr ⟨by simp [split, nonempty], missing, rfl⟩

theorem fails_of_ends {rejection : Rejection} (split : text.toList = front ++ a.ahead)
    (offset : a.there.offset = front.length) (ends : Ends a (.error rejection)) :
    Fails text a (rejection.toError text) := by
  cases ends with
  | refused found refused => exact .refused found refused
  | unfinished nothing _ =>
    have whole : text.length = a.there.offset := by
      rw [offset, ← String.length_toList, split, nothing, List.append_nil]
    rw [toError_endOfInput, whole]
    exact .atEnd nothing
  | unread more missing =>
    unfold Item.unread
    split
    · next found =>
      obtain ⟨-, split, nonempty⟩ := firstScan_eq_some found
      exact .unread split nonempty missing
    · obtain ⟨c, tail, ahead⟩ := List.exists_cons_of_ne_nil more
      rw [ahead] at split
      rw [offset, toError_character split, ← offset]
      exact .unread ahead (List.cons_ne_nil c []) missing

theorem parse_eq_error_iff :
    parse text = .error error ↔ ∃ a rejection, Reaches (.first text.toList) a ∧
      Ends a (.error rejection) ∧ rejection.toError text = error := by
  have told : parse text = .error error ↔
      ∃ rejection, (Stage.first text.toList).result = .error rejection ∧
        rejection.toError text = error := by
    have first : (Stage.first text.toList).result = ofText text.toList := rfl
    rw [first, parse]
    cases ofText text.toList <;> simp
  rw [told]
  constructor
  · rintro ⟨rejection, failed, same⟩
    obtain ⟨a, reached, ends⟩ := Stage.result_eq_iff.1 failed
    exact ⟨a, rejection, reached, ends, same⟩
  · rintro ⟨a, rejection, reached, ends, same⟩
    exact ⟨rejection, Stage.result_eq_iff.2 ⟨a, reached, ends⟩, same⟩

theorem parse_wordInList : parse "[1 x]" =
    .error ⟨"[1 x]", 3, [.terminal .closeBracket, .terminal .comma], .unexpected "x"⟩ := by
  have found : wordInList.found? = some (.scalar .bareword, ['x'], [']']) := rfl
  have ends : Ends wordInList (.error _) := .refused found rfl
  exact parse_eq_error_iff.2 ⟨wordInList, _, reaches_wordInList, ends, rfl⟩

/-- A rejected text fails at a stage that its reading reaches. -/
theorem exists_fails (rejected : parse text = .error error) :
    ∃ front a, text.toList = front ++ a.ahead ∧ Reaches (.first (front ++ a.ahead)) a ∧
      error.offset = front.length ∧ Fails text a error := by
  obtain ⟨a, rejection, reached, ends, rfl⟩ := parse_eq_error_iff.1 rejected
  obtain ⟨front, split, offset⟩ := reached.exists_front
  have fails := fails_of_ends split offset ends
  exact ⟨front, a, split, split ▸ reached, fails.offset_eq.trans offset, fails⟩

/-- A text with a refused token fails there, and what is expected is what can stand there. -/
theorem exists_refused (refused : Refused text) (rejected : parse text = .error error) :
    ∃ front a t lexeme rest, text.toList = front ++ a.ahead ∧
      Reaches (.first (front ++ a.ahead)) a ∧ a.found? = some (t, lexeme, rest) ∧
      a.state.shift t (.read t lexeme a.there) = none ∧
      error.offset = front.length ∧ error.expected = a.state.acceptable := by
  obtain ⟨a, t, lexeme, rest, reached, found, refused⟩ := refused
  obtain ⟨front, split, offset⟩ := reached.exists_front
  have failed := parse_eq_error_iff.2 ⟨a, _, reached, .refused found refused, rfl⟩
  obtain rfl := Except.error.inj (rejected.symm.trans failed)
  exact ⟨front, a, t, lexeme, rest, split, split ▸ reached, found, refused, offset, rfl⟩

/-! ## Where the error is -/

/-- Where a line is rejected, another line goes on. The reason is the end of the text exactly if the
place is the end; else it is a text that begins at the place. If that text is a refused token, no
line goes on with its first character. -/
theorem parse_error_location (rejected : parse text = .error error) :
    error.offset ≤ text.length ∧
    (∃ more, Accepted (text.toList.take error.offset ++ more)) ∧
    (error.offset = text.length ↔ error.reason.message = "unexpected end of input") ∧
    (error.offset < text.length → ∃ c lexeme rest, text.toList[error.offset]? = some c ∧
      isBlank c = false ∧ text.toList.drop error.offset = lexeme ++ rest ∧ lexeme ≠ [] ∧
      error.reason.message = "unexpected " ++ quote (String.ofList lexeme)) ∧
    (Refused text → ∀ more, ¬ Accepted (text.toList.take (error.offset + 1) ++ more)) := by
  obtain ⟨front, a, split, reached, offset, fails⟩ := exists_fails rejected
  have length : text.length = front.length + a.ahead.length := by
    rw [← String.length_toList, split, List.length_append]
  have viable : ∃ more, Accepted (text.toList.take error.offset ++ more) := by
    obtain ⟨items, accepted⟩ := ofText_completion reached
    refine ⟨a.state.completion, accepted_iff.2 ⟨items, ?_⟩⟩
    rwa [split, offset, List.take_left]
  have refusal : Refused text →
      ∀ more, ¬ Accepted (text.toList.take (error.offset + 1) ++ more) := by
    intro refused more accepted
    obtain ⟨front, a, t, lexeme, rest, split, reached, found, refused, offset, -⟩ :=
      exists_refused refused rejected
    obtain ⟨-, ahead, nonempty⟩ := firstScan_eq_some found
    obtain ⟨c, tail, rfl⟩ := List.exists_cons_of_ne_nil nonempty
    have before : text.toList.take (error.offset + 1) = front ++ [c] := by
      rw [split, offset, ahead, List.take_length_add_append]
      rfl
    rw [before, List.append_assoc] at accepted
    exact not_ofText_of_refused reached found refused ahead more (accepted_iff.1 accepted)
  rcases fails.reason_cases with ⟨nothing, reason⟩ | ⟨lexeme, rest, ahead, nonempty, reason⟩
  · have atEnd : error.offset = text.length := by simp [offset, length, nothing]
    refine ⟨by omega, viable, iff_of_true atEnd ?_, fun before => by omega, refusal⟩
    rw [reason]
    rfl
  · have positive := List.length_pos_iff.2 nonempty
    have before : error.offset < text.length := by
      rw [length, ahead, List.length_append]
      omega
    refine ⟨by omega, viable, iff_of_false (by omega) ?_, fun _ => ?_, refusal⟩
    · rw [reason]
      exact Reason.message_unexpected_ne _
    · obtain ⟨c, tail, rfl⟩ := List.exists_cons_of_ne_nil nonempty
      refine ⟨c, c :: tail, rest, ?_, Stage.visible_of_ahead ahead, ?_, nonempty, ?_⟩
      · simp [split, offset, ahead]
      · rw [split, offset, List.drop_left, ahead]
      · rw [reason]
        rfl

theorem parse_error_location_wordInList : ∃ error, parse "[1 x]" = .error error ∧
    (∃ more, Accepted ("[1 x]".toList.take error.offset ++ more)) ∧
    ∀ more, ¬ Accepted ("[1 x]".toList.take (error.offset + 1) ++ more) := by
  obtain ⟨-, viable, -, -, refusal⟩ := parse_error_location parse_wordInList
  exact ⟨_, parse_wordInList, viable, refusal refused_wordInList⟩

/-! ## What is expected -/

theorem terminal_mem_sought {t : Terminal} :
    .terminal t ∈ (Terminal.byPriority.filter a.state.seeks).map Symbol.terminal ↔
      a.state.seeks t = true := by
  simp [Terminal.mem_byPriority]

theorem expected_unread (text : String) (here : Position) (cs : List Char)
    {sought : List Terminal} :
    ((Item.unread sought here cs).toError text).expected = sought.map .terminal := by
  unfold Item.unread
  split <;> rfl

/-- What can come next is expected. Where the text ends or a token is refused, nothing else is. -/
theorem expected_of_canFollow (rejected : parse text = .error error) :
    (∀ t, CanFollow (text.toList.take error.offset) (.terminal t) →
      .terminal t ∈ error.expected) ∧
    (error.offset = text.length ∨ Refused text →
      ∀ x, x ∈ error.expected ↔ CanFollow (text.toList.take error.offset) x) := by
  obtain ⟨front, a, split, reached, offset, fails⟩ := exists_fails rejected
  have before : text.toList.take error.offset = front := by rw [split, offset, List.take_left]
  constructor
  · intro t follows
    rw [before, ← mem_acceptable_iff reached] at follows
    rcases fails.expected_cases with same | ⟨-, -, same⟩
    · exact same ▸ follows
    · rw [same, terminal_mem_sought]
      exact State.seeks_of_accepts (State.terminal_mem_acceptable.1 follows)
  · rintro (atEnd | refused) x
    · rcases fails.expected_cases with same | ⟨more, -, -⟩
      · rw [same, before, mem_acceptable_iff reached]
      · have positive := List.length_pos_iff.2 more
        have length : text.length = front.length + a.ahead.length := by
          rw [← String.length_toList, split, List.length_append]
        omega
    · obtain ⟨front, a, _, _, _, split, reached, -, -, offset, same⟩ :=
        exists_refused refused rejected
      rw [same, split, offset, List.take_left, mem_acceptable_iff reached]

theorem expected_of_canFollow_wordInList :
    parse "[1 x]" =
      .error ⟨"[1 x]", 3, [.terminal .closeBracket, .terminal .comma], .unexpected "x"⟩ ∧
    ∀ x, x ∈ [Symbol.terminal .closeBracket, .terminal .comma] ↔
      CanFollow ("[1 x]".toList.take 3) x :=
  ⟨parse_wordInList, (expected_of_canFollow parse_wordInList).2 (.inr refused_wordInList)⟩

/-- Only what can come next is expected, unless a value is followed by a text at which no terminal
has a lexeme. -/
theorem expected_sound_iff (text : String) :
    (∀ error, parse text = .error error →
      ∀ x ∈ error.expected, CanFollow (text.toList.take error.offset) x) ↔
      ¬ UnreadBehindValue text := by
  constructor
  · rintro sound ⟨a, reached, behind, more, missing⟩
    -- A symbol is expected there that the state does not accept.
    have nothing : a.found? = none := (found?_eq_none_iff behind).2 missing
    have rejected := parse_eq_error_iff.2 ⟨a, _, reached, .unread more nothing, rfl⟩
    obtain ⟨front, split, offset⟩ := reached.exists_front
    have place := (fails_of_ends split offset (.unread more nothing)).offset_eq.trans offset
    obtain ⟨t, fails⟩ := State.exists_not_accepts behind
    have expected := terminal_mem_sought.2 (State.seeks_of_behindValue behind t)
    rw [← expected_unread text a.there a.ahead] at expected
    have follows := sound _ rejected _ expected
    rw [split] at reached
    rw [place, split, List.take_left, ← mem_acceptable_iff reached,
      State.terminal_mem_acceptable, fails] at follows
    exact Bool.false_ne_true follows
  · intro read error rejected x expected
    obtain ⟨front, a, split, reached, offset, fails⟩ := exists_fails rejected
    rw [split, offset, List.take_left, ← mem_acceptable_iff reached]
    rcases fails.expected_cases with same | ⟨more, missing, same⟩
    · exact same ▸ expected
    · have behind : a.state.behindValue = false := by
        cases behind : a.state.behindValue with
        | false => rfl
        | true =>
          exact absurd ⟨a, split ▸ reached, behind, more, (found?_eq_none_iff behind).1 missing⟩
            read
      obtain ⟨t, sought, rfl⟩ := List.mem_map.1 (same ▸ expected)
      rw [State.terminal_mem_acceptable, ← State.seeks_eq_accepts behind]
      exact (List.mem_filter.1 sought).2

/-- Behind a value of the line a comma is expected, where no terminal has a lexeme. -/
theorem expected_comma_not_canFollow : ∃ error, parse "1 -" = .error error ∧
    .terminal .comma ∈ error.expected ∧
    ¬ CanFollow ("1 -".toList.take error.offset) (.terminal .comma) := by
  let one : Item := .value (.scalar .int (.read (.scalar .int) ['1'] .start))
  let behind : Stage := ⟨.between [one] true, ⟨1, 1, 2⟩, [' ', '-']⟩
  have step : Steps (.first "1 -".toList) (.scalar .int) ['1'] behind := ⟨rfl, rfl, rfl⟩
  have reached : Reaches (.first (['1', ' '] ++ behind.ahead)) behind := .step step (.refl _)
  have refused : .terminal .comma ∉ behind.state.acceptable := by decide
  have ends : Ends behind (.error _) := .unread (List.cons_ne_nil _ _) rfl
  have rejected : parse "1 -" =
      .error ⟨"1 -", 2, Terminal.byPriority.map .terminal, .unexpected "-"⟩ :=
    parse_eq_error_iff.2 ⟨behind, _, reached, ends, rfl⟩
  exact ⟨_, rejected, by decide, fun follows => refused ((mem_acceptable_iff reached).2 follows)⟩

end Tree

end CommandLine
