import CommandLine.Proofs.Command.Outcome
import CommandLine.Proofs.Shell.Session
import CommandLine.Proofs.Text.Quoting
import CommandLine.Proofs.Tree.Rejection
import CommandLine.Shell.Program

/-!
# What is logged of refused lines

A session logs each line that it parses, and a refusal behind it, with the text that is shown. That
holds of refusals by the reader; a line that can be read, but has an integer that does not fit, is
refused with an error and without a record (`Shell.program_logged_iff`).
-/

namespace CommandLine
open CommandLine.Text

/-! ## Lines with a value that does not fit -/

namespace Command

/-- A line that can be read, and whose first integer out of range can be told to be too large. -/
def Misfit (line : String) : Prop :=
  ∃ tree before l after, Tree.parse line = .ok tree ∧ tree.literals = before ++ l :: after ∧
    (∀ k ∈ before, k.InRange) ∧ ¬ l.InRange ∧ l.TooLarge

/-- Such lines are those that are blamed for their failure although they can be read. -/
theorem misfit_iff {line : String} :
    Misfit line ↔ ∃ tree error, Tree.parse line = .ok tree ∧
      ofTree line tree = .error (.line error) := by
  constructor
  · rintro ⟨tree, before, l, after, read, split, fine, outside, large⟩
    have told := parse_of_first_literal read split fine (Literal.failure?_of_tooLarge large line)
    exact ⟨tree, _, read, (ofTree_of_parse read).trans told⟩
  · rintro ⟨tree, error, read, failed⟩
    rw [ofTree_of_parse read] at failed
    have outside : ¬ ∀ l ∈ tree.literals, l.InRange := by
      rw [← inRange_iff_of_parse read, failed]
      simp
    -- The first literal out of range decides how the line fails.
    classical
    obtain ⟨l, first⟩ : ∃ l, tree.literals.find? (fun l => decide (¬ l.InRange)) = some l := by
      rw [← Option.isSome_iff_exists, List.find?_isSome]
      simpa using outside
    obtain ⟨outside, before, after, split, fine⟩ := List.find?_eq_some_iff_append.1 first
    have outside : ¬ l.InRange := by simpa using outside
    have fine : ∀ k ∈ before, k.InRange := by simpa using fine
    by_cases large : l.TooLarge
    · exact ⟨tree, before, l, after, read, split, fine, outside, large⟩
    · have overlong := Literal.overlong_of_not outside large
      have told := parse_of_first_literal read split fine
        (Literal.failure?_eq_tree_iff.2 ⟨overlong, rfl⟩)
      cases failed.symm.trans told

end Command

/-! ## Errors told on one line -/

theorem Symbol.newline_not_mem_description {x : Symbol} (proper : ∀ name, x ≠ .named name) :
    '\n' ∉ x.description.toList := by
  cases x with
  | terminal t =>
    have all : ∀ t ∈ Terminal.byPriority, '\n' ∉ t.description.toList := by decide
    exact all t (Terminal.mem_byPriority t)
  | endOfInput => decide
  | named name => exact absurd rfl (proper name)

namespace ParseError

variable {e : ParseError}

theorem newline_not_mem_describeExpected (proper : ∀ x ∈ e.expected, ∀ name, x ≠ .named name) :
    '\n' ∉ (", ".intercalate e.describeExpected).toList := by
  have each : ∀ text ∈ e.describeExpected, '\n' ∉ text.toList := by
    intro text member
    rw [describeExpected, sortedDistinct, List.mem_mergeSort, List.mem_eraseDups] at member
    obtain ⟨x, among, rfl⟩ := List.mem_map.1 member
    exact x.newline_not_mem_description (proper x among)
  exact newline_not_mem_intercalate (by decide) each

theorem newline_not_mem_message (reason : '\n' ∉ e.reason.message.toList)
    (proper : ∀ x ∈ e.expected, ∀ name, x ≠ .named name) : '\n' ∉ e.message.toList := by
  have expected := newline_not_mem_describeExpected proper
  unfold message
  split
  · simp [reason, newline_not_mem_toDigits]
  · rw [String.toList_append, String.toList_append]
    simp [reason, newline_not_mem_toDigits, -String.toList_intercalate, expected]

end ParseError

theorem Tree.newline_not_mem_message {line : String} {error : ParseError}
    (rejected : parse line = .error error) : '\n' ∉ error.message.toList := by
  obtain ⟨-, a, -, -, -, fails⟩ := exists_fails rejected
  refine ParseError.newline_not_mem_message ?_ ?_
  · rcases fails.reason_cases with ⟨-, same⟩ | ⟨lexeme, -, -, -, same⟩
    · rw [same]
      decide
    · rw [same]
      simp [Reason.message, newline_not_mem_quote]
  · rintro x expected name rfl
    rcases fails.expected_cases with same | ⟨-, -, same⟩
    · exact State.named_notMem_acceptable name (same ▸ expected)
    · simp [same] at expected

/-! ## How trees and commands are shown -/

/-- A tree begins with the name at its root. -/
theorem Tree.exists_pretty_node (label : Label) (children : List Tree) :
    ∃ rest, (pretty (.node label children)).toList = label.name.toList ++ rest := by
  have unindented : indent 0 = "" := rfl
  rw [pretty]
  unfold prettyAt
  split
  · next same => cases same
  · next same => cases same
  -- However many children there are, the name comes first.
  all_goals
    next same =>
    obtain ⟨rfl, -⟩ := node.inj same
    simp [unindented, String.append_assoc]

/-- A command begins with the first heading of its listing. -/
theorem Command.exists_text (command : Command) :
    ∃ rest, command.text.toList = "Arguments:".toList ++ rest := by
  rw [text, listing, String.toList_intercalate, List.cons_append, List.map_cons]
  generalize (_ : List String).map String.toList = more
  cases more with
  | nil => exact ⟨[], by simp [List.intercalate]⟩
  | cons next more => exact ⟨_, intercalate_cons_cons _ _ _ _⟩

/-! ## Errors that blocks tell of -/

namespace Shell

/-- The error that a block tells of: what stands on its first line behind the word for it. -/
def toldError? (block : String) : Option String :=
  ("error: ".toList.isPrefixOf? block.toList).map fun rest =>
    String.ofList (rest.takeWhile (· ≠ '\n'))

variable {line : String} {showTree : Bool}

theorem toldError?_append (rest : String) :
    toldError? ("error: " ++ rest) = some (String.ofList (rest.toList.takeWhile (· ≠ '\n'))) := by
  rw [toldError?, String.toList_append]
  rfl

theorem toldError?_errorBlock (error : ParseError) :
    ∃ text, toldError? (errorBlock error) = some text := by
  simp only [errorBlock, String.append_assoc, toldError?_append]
  exact ⟨_, rfl⟩

/-- A message that keeps to one line is told as it is. -/
theorem toldError?_errorBlock_of_plain {error : ParseError}
    (plain : '\n' ∉ error.message.toList) :
    toldError? (errorBlock error) = some error.message := by
  have inside : ∀ c ∈ error.message.toList, decide (c ≠ '\n') = true := by
    intro c member
    rw [decide_eq_true_eq]
    rintro rfl
    exact plain member
  have newline : ("\n" : String).toList = ['\n'] := rfl
  simp only [errorBlock, String.append_assoc, toldError?_append, String.toList_append, newline,
    List.takeWhile_append_of_pos inside]
  simp

theorem toldError?_of_head {block : String} {c : Char} {rest : List Char}
    (text : block.toList = c :: rest) (other : c ≠ 'e') : toldError? block = none := by
  have step : "error: ".toList.isPrefixOf? (c :: rest) =
      if 'e' == c then "rror: ".toList.isPrefixOf? rest else none := rfl
  rw [toldError?, text, step]
  simp [other.symm]

theorem toldError?_pretty {tree : Tree} (read : Tree.parse line = .ok tree) :
    toldError? tree.pretty = none := by
  obtain ⟨items, -, rfl⟩ := Tree.parse_eq_ok_iff.1 read
  obtain ⟨rest, text⟩ := Tree.exists_pretty_node (.rule .command) (items.map Tree.ofItem)
  exact toldError?_of_head text (by decide)

theorem toldError?_text (command : Command) : toldError? (command.text ++ "\n") = none := by
  obtain ⟨rest, text⟩ := command.exists_text
  have shown : (command.text ++ "\n").toList = "Arguments:".toList ++ (rest ++ "\n".toList) := by
    rw [String.toList_append, text, List.append_assoc]
  exact toldError?_of_head shown (by decide)

/-! ## Records of single lines -/

/-- The record of the log that a line is rejected with a text. -/
def rejection (line text : String) : String × String :=
  ("DEBUG  ", "Rejected " ++ quote line ++ ": " ++ text)

theorem line_rejected (line : String) (error : ParseError) :
    (Record.rejected line error).line = rejection line error.message := rfl

theorem rejection_inj {text text' : String} :
    rejection line text = rejection line text' ↔ text = text' := by
  simp [rejection, String.ext_iff]

/-- The records of the log that begin with another letter are no rejections. -/
theorem ne_rejection {c : Char} {rest : List Char} {level message text : String}
    (begins : message.toList = c :: rest) (other : c ≠ 'R') :
    (level, message) ≠ rejection line text := by
  intro same
  have opening : "Rejected ".toList = 'R' :: "ejected ".toList := rfl
  have letters := congrArg (fun record => record.2.toList) same
  simp only [rejection, String.toList_append, begins, opening, List.cons_append] at letters
  exact other (List.cons.inj letters).1

theorem parsing_line_ne {line' text : String} :
    (Record.parsing line').line ≠ rejection line text :=
  ne_rejection String.toList_append (by decide)

theorem exitRequested_line_ne {word text : String} :
    (Record.exitRequested word).line ≠ rejection line text :=
  ne_rejection String.toList_append (by decide)

/-- How a line is logged if its refusal is: that it is parsed, once, and behind that, before any
later record, that it is rejected with a text exactly if a block tells of an error with the text. -/
def Logged (line : String) (blocks : List String) (own later : List (String × String)) : Prop :=
  ∃ rest, own = (Record.parsing line).line :: rest ∧ (Record.parsing line).line ∉ rest ∧
    ∀ text, (rest ++ later).head? = some (rejection line text) ↔
      text ∈ blocks.filterMap toldError?

/-! ## Records of sessions -/

/-- The lines that a session handles with the replies to them. The last one may end it. -/
def handled (showTree : Bool) : List Read → List (String × Reply)
  | .line text :: rest =>
    (text, reply showTree text) ::
      if (reply showTree text).next = .goOn then handled showTree rest else []
  | _ => []

/-- What is logged of some lines. -/
def logOf (lines : List (String × Reply)) : List (String × String) :=
  lines.flatMap fun l => l.2.records.map Record.line

/-- What is shown for some lines. -/
def blocksOf (lines : List (String × Reply)) : List String := lines.flatMap (·.2.blocks)

/-- A session logs and shows what the replies to its lines say. -/
theorem run_handled (showTree : Bool) (reads : List Read) :
    (run showTree reads).records.map Record.line = logOf (handled showTree reads) ∧
      (run showTree reads).blocks = blocksOf (handled showTree reads) := by
  induction reads with
  | nil => exact ⟨rfl, rfl⟩
  | cons read rest ih =>
    cases read with
    | line text =>
      obtain ⟨records, blocks⟩ := ih
      rw [Session.blocks] at blocks
      rw [run, handled]
      cases next : (reply showTree text).next with
      | goOn => simp [logOf, blocksOf, Session.after, Session.blocks, records, blocks]
      | stop => simp [logOf, blocksOf, Session.blocks]
      | fail fault => simp [logOf, blocksOf, Session.blocks]
    | _ => exact ⟨rfl, rfl⟩

theorem eq_reply_of_mem_handled {reads : List Read} {l : String × Reply}
    (member : l ∈ handled showTree reads) : l.2 = reply showTree l.1 := by
  induction reads with
  | nil => cases member
  | cons read rest ih =>
    cases read with
    | line text =>
      rcases List.mem_cons.1 member with rfl | later
      · rfl
      · split at later
        · exact ih later
        · cases later
    | _ => cases member

theorem reply_records (showTree : Bool) (line : String) :
    (reply showTree line).records = [] ∨
      (reply showTree line).records = [.exitRequested (firstWord line)] ∨
      ∃ rest, (reply showTree line).records = .parsing line :: rest := by
  unfold reply
  dsimp only
  split
  · exact .inl rfl
  · split
    · exact .inr (.inl rfl)
    · split
      · exact .inl rfl
      · refine .inr (.inr ?_)
        unfold replyParsed
        split
        · exact ⟨_, rfl⟩
        · split <;> exact ⟨_, rfl⟩

/-- What is logged of some lines never begins with a rejection. -/
theorem head?_logOf {lines : List (String × Reply)}
    (replied : ∀ l ∈ lines, l.2 = reply showTree l.1) (text : String) :
    (logOf lines).head? ≠ some (rejection line text) := by
  induction lines with
  | nil => simp [logOf]
  | cons l lines ih =>
    obtain ⟨first, others⟩ := List.forall_mem_cons.1 replied
    have split : logOf (l :: lines) = l.2.records.map Record.line ++ logOf lines := rfl
    rw [split, first]
    rcases reply_records showTree l.1 with same | same | ⟨rest, same⟩
    · simpa [same] using ih others
    · rw [same]
      exact fun head => exitRequested_line_ne (Option.some.inj head)
    · rw [same]
      exact fun head => parsing_line_ne (Option.some.inj head)

theorem reply_eq_replyParsed (wordy : ¬ Blank line.toList)
    (other : firstWord line ∉ helpWords ++ exitWords) :
    reply showTree line = replyParsed showTree line := by
  rw [List.mem_append, not_or] at other
  rw [reply, if_neg other.1, if_neg other.2, if_neg (mt firstWord_eq_empty_iff.1 wordy)]

/-- A line is logged as it should be if nothing but its parsing is, and no block tells of an
error. -/
theorem logged_of_silent {blocks : List String} {later : List (String × String)}
    (head : ∀ text, later.head? ≠ some (rejection line text))
    (silent : ∀ block ∈ blocks, toldError? block = none) :
    Logged line blocks [(Record.parsing line).line] later := by
  refine ⟨[], rfl, List.not_mem_nil, ?_⟩
  intro text
  refine iff_of_false (head text) ?_
  intro told
  obtain ⟨block, member, same⟩ := List.mem_filterMap.1 told
  cases (silent block member).symm.trans same

theorem not_logged_of_told {error : ParseError} {later : List (String × String)}
    (head : ∀ text, later.head? ≠ some (rejection line text)) :
    ¬ Logged line [errorBlock error] [(Record.parsing line).line] later := by
  rintro ⟨rest, own, -, law⟩
  obtain rfl : rest = [] := (List.cons.inj own).2.symm
  obtain ⟨text, told⟩ := toldError?_errorBlock error
  exact head text ((law text).2 (List.mem_filterMap.2 ⟨_, List.mem_singleton_self _, told⟩))

theorem logged_of_rejected {error : ParseError} (rejected : Tree.parse line = .error error)
    (later : List (String × String)) :
    Logged line [errorBlock error]
      [(Record.parsing line).line, (Record.rejected line error).line] later := by
  have told := toldError?_errorBlock_of_plain (Tree.newline_not_mem_message rejected)
  refine ⟨_, rfl, ?_, ?_⟩
  · rw [List.mem_singleton, line_rejected]
    exact parsing_line_ne
  · intro text
    rw [line_rejected]
    simp [told, rejection_inj, eq_comm]

/-- A line is logged as it should be unless it has a value that does not fit. -/
theorem logged_iff {after : List (String × Reply)} (wordy : ¬ Blank line.toList)
    (other : firstWord line ∉ helpWords ++ exitWords)
    (replied : ∀ l ∈ after, l.2 = reply showTree l.1) :
    Logged line (reply showTree line).blocks ((reply showTree line).records.map Record.line)
      (logOf after) ↔ ¬ Command.Misfit line := by
  have head : ∀ text, (logOf after).head? ≠ some (rejection line text) := head?_logOf replied
  rw [reply_eq_replyParsed wordy other, Command.misfit_iff]
  unfold replyParsed
  -- A refusal by the reader is noted; one by what assembles the command is not.
  cases read : Tree.parse line with
  | error error =>
    exact iff_of_true (logged_of_rejected read _) (by simp)
  | ok tree =>
    dsimp only
    cases made : Command.ofTree line tree with
    | ok command =>
      refine iff_of_true (logged_of_silent head ?_) (by simp [made])
      refine List.forall_mem_append.2 ⟨?_, List.forall_mem_singleton.2 (toldError?_text command)⟩
      split
      · exact List.forall_mem_singleton.2 (toldError?_pretty read)
      · exact List.forall_mem_nil _
    | error failure =>
      cases failure with
      | line error =>
        refine iff_of_false (not_logged_of_told head) ?_
        simp [made]
      | tree fault =>
        refine iff_of_true (logged_of_silent head (List.forall_mem_nil _)) ?_
        simp [made]

variable {words : List String} {environment : Option String} {settings : Settings}

/-- Of a session with all records, every line that is not blank and no word of the shell is logged
as it should be, unless it has a value that does not fit. -/
theorem program_logged_iff (called : Settings.read words = .ok settings)
    (debug : Level.choose settings.level environment = .ok .debug) (reads : List Read) :
    (∃ ending, program words environment reads = .ran (logOf (handled settings.showTree reads))
      (printed (intro :: blocksOf (handled settings.showTree reads))) ending) ∧
    ∀ before line reply after,
      handled settings.showTree reads = before ++ (line, reply) :: after →
      ¬ Blank line.toList → firstWord line ∉ ["h", "help", "q", "exit"] →
      (Logged line reply.blocks (reply.records.map Record.line) (logOf after) ↔
        ¬ Command.Misfit line) := by
  constructor
  · obtain ⟨records, blocks⟩ := run_handled settings.showTree reads
    refine ⟨(run settings.showTree reads).ending, ?_⟩
    have shown : Level.debug.showsRecords = true := rfl
    simp only [program, called, debug]
    rw [if_pos shown, records, blocks]
  · intro before line reply' after split wordy other
    have replied : ∀ l ∈ (line, reply') :: after, l.2 = reply settings.showTree l.1 := by
      intro l member
      have among : l ∈ handled settings.showTree reads := by
        rw [split]
        exact List.mem_append_right _ member
      exact eq_reply_of_mem_handled among
    obtain ⟨here, later⟩ := List.forall_mem_cons.1 replied
    have same : reply' = reply settings.showTree line := here
    rw [same]
    exact logged_iff wordy other later

theorem program_logged_rejected :
    ∃ reply after ending,
      handled true [.line "1 -", .line "9223372036854775808"] = ("1 -", reply) :: after ∧
      program ["--tree"] (some "debug") [.line "1 -", .line "9223372036854775808"] =
        .ran (logOf (("1 -", reply) :: after))
          (printed (intro :: blocksOf (("1 -", reply) :: after))) ending ∧
      Logged "1 -" reply.blocks (reply.records.map Record.line) (logOf after) := by
  have called : Settings.read ["--tree"] = .ok ⟨true, none⟩ := rfl
  have debug : Level.choose none (some "debug") = .ok .debug := rfl
  obtain ⟨⟨ending, ran⟩, law⟩ := program_logged_iff called debug
    [.line "1 -", .line "9223372036854775808"]
  have next : (reply true "1 -").next = .goOn := by decide +kernel
  have lines : handled true [.line "1 -", .line "9223372036854775808"] =
      ("1 -", reply true "1 -") :: handled true [.line "9223372036854775808"] := by
    rw [handled, if_pos next]
  have wordy : ¬ Blank "1 -".toList := by
    rw [← firstWord_eq_empty_iff]
    decide +kernel
  have fits : ¬ Command.Misfit "1 -" := by
    rintro ⟨tree, -, -, -, read, -⟩
    have refused : (Tree.parse "1 -").isOk = false := by decide +kernel
    rw [read] at refused
    cases refused
  refine ⟨_, _, ending, lines, ?_, ?_⟩
  · rw [← lines]
    exact ran
  · exact (law [] _ _ _ lines wordy (by decide +kernel)).2 fits

/-- An integer that does not fit is told about, but not noted. -/
theorem not_logged_misfit :
    ∃ reply, handled false [.line "9223372036854775808"] = [("9223372036854775808", reply)] ∧
      program ["--log-level", "DEBUG"] none [.line "9223372036854775808"] =
        .ran (reply.records.map Record.line) (printed (intro :: reply.blocks)) .finished ∧
      ¬ Logged "9223372036854775808" reply.blocks (reply.records.map Record.line) [] := by
  have blocks : (reply false "9223372036854775808").blocks =
      ["error: integer 9223372036854775808 does not fit in 64 bits at byte 0\n" ++
        "9223372036854775808\n^\n"] := by decide +kernel
  have records : (reply false "9223372036854775808").records =
      [.parsing "9223372036854775808"] := by decide +kernel
  have next : (reply false "9223372036854775808").next = .goOn := by decide +kernel
  refine ⟨reply false "9223372036854775808", ?_, ?_, ?_⟩
  · rw [handled, if_pos next]
    rfl
  · have called : Settings.read ["--log-level", "DEBUG"] = .ok ⟨false, some "DEBUG"⟩ := rfl
    have debug : Level.choose (some "DEBUG") none = .ok .debug := rfl
    simp only [program, called, debug]
    rw [run_of_goOn next]
    simp [Session.after, Session.blocks, run, Session.last, Level.showsRecords]
  · rw [blocks, records]
    rintro ⟨rest, own, -, law⟩
    obtain rfl : rest = [] := (List.cons.inj own).2.symm
    have told := (law "integer 9223372036854775808 does not fit in 64 bits at byte 0").2
      (by decide +kernel)
    cases told

end Shell

end CommandLine
