import CommandLine.Item.State
import CommandLine.Rejection
import CommandLine.Terminal.Scan

/-!
# Reading the items of a line

A line is read token by token. Blanks are passed over; then the first terminal in the order of
priority that has a lexeme here gives the token, among those that the reader looks for in its
state. Which terminals those are is a parameter of `readFrom`, so that two ways of looking can be
compared.
-/

namespace CommandLine.Item
open CommandLine.Text

/-- The first terminal of a list that has a lexeme at the front of a text. -/
def firstScan : List Terminal → List Char → Option (Terminal × List Char × List Char)
  | [], _ => none
  | t :: ts, cs =>
    match t.scan cs with
    | some (lexeme, rest) => some (t, lexeme, rest)
    | none => firstScan ts cs

/-- The lexeme found is the front of the text, and not empty. -/
theorem firstScan_eq_some {ts : List Terminal} {cs : List Char} {t : Terminal}
    {lexeme rest : List Char} (h : firstScan ts cs = some (t, lexeme, rest)) :
    t ∈ ts ∧ cs = lexeme ++ rest ∧ lexeme ≠ [] := by
  fun_induction firstScan ts cs with
  | case1 => simp at h
  | case2 t' ts cs l r e =>
    obtain ⟨rfl, rfl, rfl⟩ : t' = t ∧ l = lexeme ∧ r = rest := by simpa using h
    exact ⟨List.mem_cons_self, t'.scan_proper _ _ _ e⟩
  | case3 t' ts cs e ih => exact ⟨List.mem_cons_of_mem _ (ih h).1, (ih h).2⟩

/-- The rejection of a text at which none of the terminals sought has a lexeme. If another
terminal has one, that whole lexeme is what was found. -/
def unread (sought : List Terminal) (here : Position) (cs : List Char) : Rejection :=
  let expected := sought.map Symbol.terminal
  match firstScan Terminal.byPriority cs with
  | some (t, lexeme, _) => .token (.read t lexeme here) expected
  | none => .character here.offset expected

/-- What is left of a text without the blanks at its front. -/
def skipBlanks (cs : List Char) : List Char := cs.dropWhile isBlank

theorem length_skipBlanks_le (cs : List Char) : (skipBlanks cs).length ≤ cs.length :=
  (List.dropWhile_sublist isBlank).length_le

/-- Reads a text from a state on. -/
def readFrom (seeks : State → Terminal → Bool) (s : State) (here : Position) (cs : List Char) :
    Except Rejection (List Item) :=
  let there := here.advance (cs.takeWhile isBlank)
  let sought := Terminal.byPriority.filter (seeks s)
  if (skipBlanks cs).isEmpty then
    match s.items? with
    | some items => .ok items
    | none => .error (.endOfInput s.acceptable)
  else
    match _found : firstScan sought (skipBlanks cs) with
    | none => .error (unread sought there (skipBlanks cs))
    | some (t, lexeme, rest) =>
      let token := Token.read t lexeme there
      match s.shift t token with
      | none => .error (.token token s.acceptable)
      | some next => readFrom seeks next token.stop rest
termination_by cs.length
decreasing_by
  obtain ⟨_, split, nonempty⟩ := firstScan_eq_some _found
  have shorter := congrArg List.length split
  have := List.length_pos_iff.2 nonempty
  have := length_skipBlanks_le cs
  simp only [List.length_append] at shorter
  omega

/-- The items of a line. -/
def ofText (cs : List Char) : Except Rejection (List Item) :=
  readFrom State.seeks .initial .start cs

end CommandLine.Item
