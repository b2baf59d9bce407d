import CommandLine.Command.Reader
import CommandLine.Text.Character

/-!
# The shell

A shell reads lines until it is told to stop, answers a few words itself, and shows what every
other line says. One line is answered by `Shell.reply`, whatever was read before it; `Shell.run`
puts the replies of a whole session together.
-/

namespace CommandLine.Shell
open CommandLine.Text

/-! ## Fixed texts -/

/-- First words that ask for help. -/
def helpWords : List String := ["h", "help"]

/-- First words that end the session. -/
def exitWords : List String := ["q", "exit"]

/-- Lines of text, each ended by a newline. -/
def ofLines (lines : List String) : String := String.join (lines.map (· ++ "\n"))

/-- What is shown when a session begins. -/
def intro : String :=
  ofLines ["Enter \"help\" for examples.", "Press Ctrl-D or enter \"exit\" to exit."]

/-- What is shown to those who ask for help. -/
def helpText : String :=
  ofLines
    ["Examples:",
      "  Positional Arguments",
      "    1 2 3",
      "    arg1 arg2 arg3",
      "  Keyword Arguments",
      "    kw: 1",
      "    keywordarg: True",
      "  Flags",
      "    -flag1 -flag2",
      "  Quoted Strings",
      "    kw: \"string with spaces\"",
      "    \"positional argument with spaces\"",
      "  Ranges",
      "    range: 1..10",
      "    1..10",
      "    ..10",
      "    ids: -10..20",
      "  Lists",
      "    vals: [\"val1\", \"val2\"]",
      "    vals: [1, 2, 3]",
      "    [1,2,3]"]

/-! ## Log -/

/-- What is noted while a session runs. -/
inductive Record where
  | parsing (line : String)
  | rejected (line : String) (error : ParseError)
  | exitRequested (word : String)
deriving DecidableEq, Repr

/-- The wording of a record. -/
def Record.message : Record → String
  | parsing line => "Parsing " ++ quote line
  | rejected line error => "Rejected " ++ quote line ++ ": " ++ error.message
  | exitRequested word => "Exit requested with " ++ quote word

/-! ## One line -/

/-- How a session goes on after a line. -/
inductive Next where
  | goOn
  | stop
  | fail (fault : TreeFault)
deriving DecidableEq, Repr

/-- What a line leads to: the blocks of text that are shown, the records that are noted, and how
the session goes on. -/
structure Reply where
  blocks : List String
  records : List Record
  next : Next

/-- The block that tells about an error. -/
def errorBlock (error : ParseError) : String :=
  "error: " ++ error.message ++ "\n" ++ error.context ParseError.defaultSpan ++ "\n"

/-- The reply to a line that is to be parsed. A line that is refused while it is read is noted;
one with a value that does not fit is only reported. -/
def replyParsed (showTree : Bool) (line : String) : Reply :=
  match Tree.parse line with
  | .error error => ⟨[errorBlock error], [.parsing line, .rejected line error], .goOn⟩
  | .ok tree =>
    match Command.ofTree line tree with
    | .error (.line error) => ⟨[errorBlock error], [.parsing line], .goOn⟩
    | .error (.tree fault) => ⟨[], [.parsing line], .fail fault⟩
    | .ok command =>
      ⟨(if showTree then [tree.pretty] else []) ++ [command.text ++ "\n"], [.parsing line], .goOn⟩

/-- The reply to a line. -/
def reply (showTree : Bool) (line : String) : Reply :=
  let word := firstWord line
  if word ∈ helpWords then ⟨[helpText], [], .goOn⟩
  else if word ∈ exitWords then ⟨[], [.exitRequested word], .stop⟩
  else if word = "" then ⟨[], [], .goOn⟩
  else replyParsed showTree line

/-! ## A session -/

/-- What an attempt to read a line gives. -/
inductive Read where
  | line (text : String)
  | endOfInput
  | interrupted
  | broken
deriving DecidableEq, Repr

/-- How a session ends: as wished, because reading broke, or on a tree that gives no command. -/
inductive Ending where
  | finished
  | broken
  | failed (fault : TreeFault)
deriving DecidableEq, Repr

/-- A whole session: the blocks shown after each read, the records noted, and the end. -/
structure Session where
  steps : List (List String)
  records : List Record
  ending : Ending

/-- A session that ends with a read. -/
def Session.last (ending : Ending) : Session := ⟨[[]], [], ending⟩

/-- A session with one more reply at its front. -/
def Session.after (r : Reply) (s : Session) : Session :=
  ⟨r.blocks :: s.steps, r.records ++ s.records, s.ending⟩

/-- A session over some reads. Behind the last of them the input has ended. -/
def run (showTree : Bool) : List Read → Session
  | [] => .last .finished
  | .endOfInput :: _ => .last .finished
  | .interrupted :: _ => .last .finished
  | .broken :: _ => .last .broken
  | .line text :: rest =>
    let r := reply showTree text
    match r.next with
    | .goOn => (run showTree rest).after r
    | .stop => ⟨[r.blocks], r.records, .finished⟩
    | .fail fault => ⟨[r.blocks], r.records, .failed fault⟩

/-- The blocks of a session in the order in which they are shown. -/
def Session.blocks (s : Session) : List String := s.steps.flatten

end CommandLine.Shell
