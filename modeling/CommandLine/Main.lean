import CommandLine.Fuzz.Program
import CommandLine.Shell.Program

/-!
# The program

The shell, or with the first word `fuzz` a campaign. Everything that is decided is decided by
`Shell.reply`, `Campaign.turn` and the readers of options; here lines are read, texts are printed
and files are written.
-/

namespace CommandLine

/-- What asks for the next line. -/
def prompt : String := "command> "

/-- The environment variable with the level of the log. -/
def levelVariable : String := "COMMAND_LINE_LOG_LEVEL"

/-- The exit code of a call that was no run, after telling how to call. -/
def exitWithUsage (usage : String) : Options.Stop → IO UInt32
  | .help => do
    IO.println usage
    return 0
  | .misuse => do
    IO.eprintln usage
    return 2

/-! ## The shell -/

/-- Reads and answers lines until a session ends. -/
partial def answerLines (input : IO.FS.Stream) (showTree logs : Bool) : IO UInt32 := do
  IO.print prompt
  (← IO.getStdout).flush
  let text ← input.getLine
  if text.isEmpty then return 0
  let reply := Shell.reply showTree (text.dropEndWhile (· == '\n')).toString
  if logs then
    for record in reply.records do
      let (level, message) := record.line
      IO.eprintln (level ++ " | " ++ message)
  IO.print (Shell.printed reply.blocks)
  match reply.next with
  | .goOn => answerLines input showTree logs
  | .stop => return 0
  | .fail fault =>
    IO.eprintln fault.message
    return 1

/-- Runs a shell on standard input. -/
def runShell (words : List String) : IO UInt32 := do
  match Shell.Settings.read words with
  | .error stop => exitWithUsage "usage: [-h] [--tree] [--log-level LEVEL]" stop
  | .ok settings =>
    match Shell.Level.choose settings.level (← IO.getEnv levelVariable) with
    | .error name =>
      IO.eprintln (Shell.Level.unknownMessage name)
      return 1
    | .ok level =>
      IO.print (Shell.printed [Shell.intro])
      answerLines (← IO.getStdin) settings.showTree level.showsRecords

/-! ## Campaigns -/

/-- The time in seconds. -/
def secondsNow : IO Double := do return Double.ofRatio false (← IO.monoNanosNow) 1000000000

/-- A clock that stands still at the present moment. -/
def clockNow : IO Fuzz.Clock := do return ⟨← secondsNow, .zero false⟩

/-- Prints what a campaign printed since a number of texts were printed. -/
def printSince (before : Nat) (c : Fuzz.Campaign) : IO Unit :=
  for text in (c.notebook.printed.take (c.notebook.printed.length - before)).reverse do
    IO.print text

/-- Writes the files of the findings. -/
def writeFindings (directory : String) (c : Fuzz.Campaign) : IO Unit := do
  for (name, lines) in c.notebook.files do
    IO.FS.writeFile (Fuzz.Finding.pathIn directory name) (Shell.ofLines lines)

/-- Goes on with a campaign until its limits end it. -/
partial def tryLines (settings : Fuzz.Settings) (printed : Nat) (c : Fuzz.Campaign) :
    IO Fuzz.Campaign := do
  printSince printed c
  let printed := c.notebook.printed.length
  match { c with clock := ← clockNow }.turn settings with
  | .goOn c => tryLines settings printed c
  | last => do
    printSince printed last.close
    return last.close

/-- The exit code of a call that cannot be carried out, after telling why. -/
def exitWithFault (fault : Fuzz.CallFault) : IO UInt32 := do
  IO.eprintln fault.message
  return 1

/-- Runs a campaign. -/
def runCampaign (words : List String) : IO UInt32 := do
  match Fuzz.Call.read words with
  | .error stop =>
    exitWithUsage
      "usage: fuzz [-h] [--duration MINUTES] [--iterations N] [--seed SEED] [--findings-dir DIR]"
      stop
  | .ok call =>
    let (seed, clock) := call.seedOr (← clockNow)
    IO.print (Fuzz.seedNotice seed)
    match call.directoryOr "fuzz_findings" with
    | .error fault => exitWithFault fault
    | .ok directory =>
      let settings := call.settings directory
      let beginning := Fuzz.Campaign.begin settings (Fuzz.sourceOf seed) clock
      IO.FS.createDirAll directory
      if call.iterations = .blank ∧ beginning.hasTime.1 = true then exitWithFault .blankIterations
      else
        let c ← tryLines settings 0 beginning
        writeFindings directory c
        return if c.result = 0 then 0 else 1

end CommandLine

/-- The program: a shell, or a campaign. -/
def main : List String → IO UInt32
  | "fuzz" :: words => CommandLine.runCampaign words
  | words => CommandLine.runShell words
