import CommandLine.Proofs.Item.Reading
import CommandLine.Shell

/-!
# What a session shows

A session reads lines until a read fails or a line asks to stop, and answers every line before that
by what the line says, whatever was read before it: `Shell.run_answers`. That a line is refused
neither ends the session nor leaves a part of an answer behind.
-/

namespace CommandLine.Shell
open CommandLine.Text

/-! ## First words -/

theorem firstWord_eq_empty_iff {line : String} : firstWord line = "" ↔ Blank line.toList := by
  have word : (splitFirstWord line.toList).1 =
      (Item.skipBlanks line.toList).takeWhile (!isBlank ·) := rfl
  rw [← Item.skipBlanks_eq_nil_iff, firstWord, String.ofList_eq_empty_iff, word]
  constructor
  · intro nothing
    cases ahead : Item.skipBlanks line.toList with
    | nil => rfl
    | cons c cs =>
      -- What is left begins with a character that belongs to the word.
      have visible := List.head?_dropWhile_not isBlank line.toList
      rw [show line.toList.dropWhile isBlank = c :: cs from ahead] at visible
      have first : isBlank c = false := visible
      simp [ahead, first] at nothing
  · intro blank
    rw [blank]
    rfl

/-- No word asks for help and ends the session. -/
theorem disjoint_words : ∀ word ∈ helpWords, word ∉ exitWords := by decide

/-! ## Answers to single lines -/

/-- What is shown for a line that does not end the session: help for one that asks for it, nothing
for a blank one, and for any other line the command that it says, below its tree if that is wished,
or the error that it is refused with. -/
inductive Answers (showTree : Bool) (line : String) : List String → Prop where
  | help (asked : firstWord line ∈ ["h", "help"]) : Answers showTree line [helpText]
  | nothing (blank : Blank line.toList) : Answers showTree line []
  | command {tree : Tree} {command : Command} (unasked : firstWord line ∉ ["h", "help"])
      (visible : ¬ Blank line.toList) (read : Tree.parse line = .ok tree)
      (said : Command.parse line = .ok command) :
      Answers showTree line ((if showTree then [tree.pretty] else []) ++ [command.text ++ "\n"])
  | error {error : ParseError} (unasked : firstWord line ∉ ["h", "help"])
      (visible : ¬ Blank line.toList) (refused : Command.parse line = .error (.line error)) :
      Answers showTree line ["error: " ++ error.message ++ "\n" ++ error.context 20 ++ "\n"]

variable {showTree : Bool} {line : String}

/-- A line has one answer. -/
theorem Answers.unique {blocks blocks' : List String} (h : Answers showTree line blocks)
    (h' : Answers showTree line blocks') : blocks = blocks' := by
  have wordless (blank : Blank line.toList) : firstWord line ∉ ["h", "help"] := by
    rw [firstWord_eq_empty_iff.2 blank]
    decide
  cases h with
  | help asked =>
    cases h' with
    | help => rfl
    | nothing blank => exact absurd asked (wordless blank)
    | command unasked => exact absurd asked unasked
    | error unasked => exact absurd asked unasked
  | nothing blank =>
    cases h' with
    | help asked => exact absurd asked (wordless blank)
    | nothing => rfl
    | command unasked visible => exact absurd blank visible
    | error unasked visible => exact absurd blank visible
  | command unasked visible read said =>
    cases h' with
    | help asked => exact absurd asked unasked
    | nothing blank => exact absurd blank visible
    | command _ _ read' said' =>
      cases read.symm.trans read'
      cases said.symm.trans said'
      rfl
    | error _ _ refused => cases said.symm.trans refused
  | error unasked visible refused =>
    cases h' with
    | help asked => exact absurd asked unasked
    | nothing blank => exact absurd blank visible
    | command _ _ _ said => cases refused.symm.trans said
    | error _ _ refused' =>
      cases refused.symm.trans refused'
      rfl

/-- A line that is not empty says what its tree says. -/
theorem parse_of_visible (visible : ¬ Blank line.toList) :
    Command.parse line =
      match Tree.parse line with
      | .error error => .error (.line error)
      | .ok tree => Command.ofTree line tree := by
  have nonempty : line.isEmpty = false := by
    rw [Bool.eq_false_iff]
    intro empty
    rw [String.isEmpty_iff.1 empty] at visible
    exact visible (by simp [Blank])
  rw [Command.parse, nonempty]
  rfl

/-- A line that is to be parsed is answered, and the session goes on, unless its tree gives no
command. -/
theorem replyParsed_answers (sound : ∀ fault, Command.parse line ≠ .error (.tree fault))
    (unasked : firstWord line ∉ helpWords) (visible : ¬ Blank line.toList) :
    (replyParsed showTree line).next = .goOn ∧
      Answers showTree line (replyParsed showTree line).blocks := by
  have same := parse_of_visible visible
  unfold replyParsed
  cases read : Tree.parse line with
  | error error =>
    rw [read] at same
    exact ⟨rfl, .error unasked visible same⟩
  | ok tree =>
    rw [read] at same
    dsimp only at same ⊢
    cases made : Command.ofTree line tree with
    | ok command => exact ⟨rfl, .command unasked visible read (same.trans made)⟩
    | error failure =>
      cases failure with
      | line error => exact ⟨rfl, .error unasked visible (same.trans made)⟩
      | tree fault => exact absurd (same.trans made) (sound fault)

/-- A line that does not end the session is answered. -/
theorem reply_answers (sound : ∀ fault, Command.parse line ≠ .error (.tree fault))
    (goesOn : firstWord line ∉ exitWords) :
    (reply showTree line).next = .goOn ∧ Answers showTree line (reply showTree line).blocks := by
  by_cases asked : firstWord line ∈ helpWords
  · rw [reply, if_pos asked]
    exact ⟨rfl, .help asked⟩
  · rw [reply, if_neg asked, if_neg goesOn]
    by_cases nothing : firstWord line = ""
    · rw [if_pos nothing]
      exact ⟨rfl, .nothing (firstWord_eq_empty_iff.1 nothing)⟩
    · rw [if_neg nothing]
      exact replyParsed_answers sound asked fun blank => nothing (firstWord_eq_empty_iff.2 blank)

/-- A line that ends the session shows nothing. -/
theorem reply_of_exit (exits : firstWord line ∈ exitWords) :
    reply showTree line = ⟨[], [.exitRequested (firstWord line)], .stop⟩ := by
  have unasked : firstWord line ∉ helpWords := fun asked => disjoint_words _ asked exits
  rw [reply, if_neg unasked, if_pos exits]

/-! ## Sessions -/

/-- The lines before the first read that fails and the first line that ends the session. -/
def answered : List Read → List String
  | .line text :: rest => if firstWord text ∈ ["q", "exit"] then [] else text :: answered rest
  | _ => []

/-- The read that ends a session, behind all lines that are answered. Behind the last read the
input has ended. -/
def lastRead (reads : List Read) : Read := (reads[(answered reads).length]?).getD .endOfInput

variable {rest : List Read}

theorem answered_of_exit (exits : firstWord line ∈ exitWords) :
    answered (.line line :: rest) = [] := if_pos exits

theorem answered_of_goOn (goesOn : firstWord line ∉ exitWords) :
    answered (.line line :: rest) = line :: answered rest := if_neg goesOn

theorem run_of_exit (exits : firstWord line ∈ exitWords) :
    run showTree (.line line :: rest) =
      ⟨[[]], [.exitRequested (firstWord line)], .finished⟩ := by
  rw [run, reply_of_exit exits]

theorem run_of_goOn (goesOn : (reply showTree line).next = .goOn) :
    run showTree (.line line :: rest) = (run showTree rest).after (reply showTree line) := by
  rw [run]
  simp only [goesOn]

/-- Lines are answered one by one up to the end of the session, which is decided by the read that
follows them. Later reads do not count. -/
theorem run_answers (showTree : Bool) (reads : List Read)
    (sound : ∀ line, .line line ∈ reads → ∀ fault, Command.parse line ≠ .error (.tree fault)) :
    (run showTree reads).steps =
        (answered reads).map (fun line => (reply showTree line).blocks) ++ [[]] ∧
      (∀ line ∈ answered reads, Answers showTree line (reply showTree line).blocks) ∧
      (run showTree reads).ending =
        (if lastRead reads = .broken then Ending.broken else .finished) ∧
      run showTree (reads.take ((answered reads).length + 1)) = run showTree reads := by
  induction reads with
  | nil => exact ⟨rfl, by simp [answered], rfl, rfl⟩
  | cons read rest ih =>
    cases read with
    | endOfInput => exact ⟨rfl, by simp [answered], rfl, rfl⟩
    | interrupted => exact ⟨rfl, by simp [answered], rfl, rfl⟩
    | broken => exact ⟨rfl, by simp [answered], rfl, rfl⟩
    | line text =>
      by_cases exits : firstWord text ∈ exitWords
      · simp [run_of_exit exits, answered_of_exit exits, lastRead]
      · have here := sound text List.mem_cons_self
        obtain ⟨goesOn, answers⟩ : (reply showTree text).next = .goOn ∧
            Answers showTree text (reply showTree text).blocks := reply_answers here exits
        obtain ⟨steps, each, ending, enough⟩ :=
          ih fun line member => sound line (List.mem_cons_of_mem _ member)
        have last : lastRead (.line text :: rest) = lastRead rest := by
          simp [lastRead, answered_of_goOn exits]
        rw [answered_of_goOn exits, run_of_goOn goesOn, last]
        refine ⟨?_, List.forall_mem_cons.2 ⟨answers, each⟩, ending, ?_⟩
        · simp [Session.after, steps]
        · rw [List.length_cons, List.take_succ_cons, run_of_goOn goesOn, enough]

theorem run_answers_refused_line :
    ∃ tree command error, Tree.parse "x:[1]" = .ok tree ∧ Command.parse "x:[1]" = .ok command ∧
      Command.parse "1 -" = .error (.line error) ∧
      (run true [.line "x:[1]", .line "\t", .line "1 -", .line "h 2", .line " q", .broken]).steps =
        [[tree.pretty, command.text ++ "\n"], [],
          ["error: " ++ error.message ++ "\n" ++ error.context 20 ++ "\n"], [helpText], []] := by
  let script : List Read :=
    [.line "x:[1]", .line "\t", .line "1 -", .line "h 2", .line " q", .broken]
  have untroubled : ∀ line ∈ ["x:[1]", "\t", "1 -", "h 2", " q"],
      (match Command.parse line with
        | .error (.tree _) => false
        | _ => true) = true := by decide +kernel
  have sound : ∀ line, .line line ∈ script →
      ∀ fault, Command.parse line ≠ .error (.tree fault) := by
    intro line member fault failed
    have fine := untroubled line (by simpa [script] using member)
    rw [failed] at fine
    cases fine
  obtain ⟨tree, read⟩ : ∃ tree, Tree.parse "x:[1]" = .ok tree :=
    exists_ok_of_isOk (by decide +kernel)
  obtain ⟨command, said⟩ : ∃ command, Command.parse "x:[1]" = .ok command :=
    exists_ok_of_isOk (by decide +kernel)
  obtain ⟨error, refused⟩ : ∃ error, Command.parse "1 -" = .error (.line error) := by
    have told : (match Command.parse "1 -" with
        | .error (.line _) => true
        | _ => false) = true := by decide +kernel
    split at told
    · next error same => exact ⟨error, same⟩
    · cases told
  obtain ⟨steps, each, -, -⟩ := run_answers true script sound
  have lines : answered script = ["x:[1]", "\t", "1 -", "h 2"] := by decide +kernel
  rw [lines] at steps each
  have visible {line : String} (word : firstWord line ≠ "") : ¬ Blank line.toList :=
    fun blank => word (firstWord_eq_empty_iff.2 blank)
  have shown := (each "x:[1]" (by simp)).unique
    (.command (by decide +kernel) (visible (by decide +kernel)) read said)
  have silent := (each "\t" (by simp)).unique
    (.nothing (firstWord_eq_empty_iff.1 (by decide +kernel)))
  have told := (each "1 -" (by simp)).unique
    (.error (by decide +kernel) (visible (by decide +kernel)) refused)
  have helped := (each "h 2" (by simp)).unique (.help (by decide +kernel))
  refine ⟨tree, command, error, read, said, refused, ?_⟩
  rw [steps, List.map_cons, List.map_cons, List.map_cons, List.map_cons, shown, silent, told,
    helped]
  rfl

end CommandLine.Shell
