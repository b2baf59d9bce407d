import CommandLine.Options
import CommandLine.Shell
import CommandLine.Text.UpperCase

/-!
# The shell as a program

The options of the shell, the levels of its log, and a whole run from the words it is called with
to the text it prints.
-/

namespace CommandLine.Shell

/-! ## Log levels -/

/-- How much is logged, the most at the front. -/
inductive Level where
  | trace | debug | info | success | warning | error | critical
deriving DecidableEq, Repr

namespace Level

/-- All levels. -/
def all : List Level := [trace, debug, info, success, warning, error, critical]

/-- The name of a level. -/
def name : Level → String
  | trace => "TRACE"
  | debug => "DEBUG"
  | info => "INFO"
  | success => "SUCCESS"
  | warning => "WARNING"
  | error => "ERROR"
  | critical => "CRITICAL"

/-- The level that is taken if none is given. -/
def default : Level := warning

/-- Whether records of a session are shown. They all have the level `debug`. -/
def showsRecords : Level → Bool
  | trace => true
  | debug => true
  | _ => false

/-- The level with a name in any case, or the upper-case name that no level has. -/
def ofName (s : String) : Except String Level :=
  match all.find? (·.name = Text.upper s) with
  | some level => .ok level
  | none => .error (Text.upper s)

/-- The wording for a name that no level has. -/
def unknownMessage (name : String) : String := "Level '" ++ name ++ "' does not exist"

/-- The level chosen by the option, or else by the environment. An empty option is no choice, an
empty environment variable is one. -/
def choose (option environment : Option String) : Except String Level :=
  match option.filter (· ≠ ""), environment with
  | some s, _ => ofName s
  | none, some s => ofName s
  | none, none => .ok default

end Level

/-- A record as it is logged: its level, padded to seven characters, and its message. -/
def Record.line (r : Record) : String × String := ("DEBUG  ", r.message)

/-! ## Running -/

/-- Shows the tree of each line. -/
def treeOption : Options.Switch := ⟨"--tree", none⟩

/-- Sets the level of the log. -/
def levelOption : Options.Switch := ⟨"--log-level", some fun _ => true⟩

/-- How the shell is called. -/
structure Settings where
  showTree : Bool
  level : Option String

/-- The settings that some words give. -/
def Settings.read (words : List String) : Except Options.Stop Settings :=
  (Options.read [treeOption, levelOption] words).map fun given =>
    ⟨Options.isGiven treeOption.name given, (Options.valueOf levelOption.name given).toOption⟩

/-- What comes of a run of the program. -/
inductive Outcome where
  /-- The words were no proper call, or asked for help. -/
  | stopped (stop : Options.Stop)
  /-- No level has the name that was given. -/
  | noSuchLevel (name : String)
  /-- A session took place: what was logged of it, what was printed, and how it ended. -/
  | ran (log : List (String × String)) (printed : String) (ending : Ending)

/-- What is printed for some blocks: each on lines of its own. -/
def printed (blocks : List String) : String := ofLines blocks

/-- Runs the program on some words, an environment and some reads. -/
def program (words : List String) (environment : Option String) (reads : List Read) : Outcome :=
  match Settings.read words with
  | .error stop => .stopped stop
  | .ok settings =>
    match Level.choose settings.level environment with
    | .error name => .noSuchLevel name
    | .ok level =>
      let session := run settings.showTree reads
      .ran (if level.showsRecords then session.records.map Record.line else [])
        (printed (intro :: session.blocks)) session.ending

end CommandLine.Shell
