import CommandLine.Command.Check
import CommandLine.Command.Reader
import CommandLine.Digest

/-!
# Judging lines

What comes of trying a line, and what is noted of it. A line that takes too long or breaks the
parser is a finding; each such line is kept once, under a name made from its digest.
-/

namespace CommandLine.Fuzz

/-- Something that broke: the kind of error, and what it says. -/
structure Fault where
  kind : String
  message : String
deriving DecidableEq, Repr

/-- What comes of trying a line. -/
inductive Verdict where
  | accepted
  | rejected
  | timedOut (message : String)
  | crashed (fault : Fault)
deriving DecidableEq, Repr

namespace Verdict

/-- The verdict on what reading a line returned. -/
def ofCandidate (candidate : Candidate) : Verdict :=
  match candidate.violation? with
  | none => accepted
  | some violation => crashed ⟨"InvariantViolation", violation.message⟩

/-- The verdict on a line. -/
def ofLine (line : String) : Verdict :=
  match Command.parse line with
  | .ok command => ofCandidate (.ofCommand command)
  | .error (.line _) => rejected
  | .error (.tree fault) => crashed ⟨"InternalGrammarError", fault.message⟩

/-- What a verdict is called in a list of tries. -/
def name : Verdict → String
  | accepted => "ok"
  | rejected => "error"
  | timedOut _ => "timeout"
  | crashed _ => "crash"

/-- Whether a verdict is a finding. -/
def isFinding : Verdict → Bool
  | timedOut _ => true
  | crashed _ => true
  | _ => false

/-- The error of a finding. -/
def fault? : Verdict → Option Fault
  | timedOut message => some ⟨"ParseTimeout", message⟩
  | crashed fault => some fault
  | _ => none

end Verdict

/-- A line that is kept, with the category and the error of its first try. -/
structure Finding where
  category : String
  line : String
  fault : Fault
deriving DecidableEq, Repr

namespace Finding

/-- The name that tells findings apart. -/
def digest (f : Finding) : String := Digest.shortName f.line

/-- The name of the file that a finding is kept in. -/
def fileName (f : Finding) : String := f.category ++ "_" ++ f.digest ++ ".txt"

/-- The path of a file in a directory. -/
def pathIn (directory fileName : String) : String :=
  if directory = "." then fileName
  else if directory.toList.getLast? = some '/' then directory ++ fileName
  else directory ++ "/" ++ fileName

/-- The lines of the file. -/
def fileLines (f : Finding) : List String :=
  ["Category: " ++ f.category, "Error: " ++ f.fault.kind ++ ": " ++ f.fault.message,
    "Input: " ++ Text.quote f.line]

/-- What is printed when a finding is kept. -/
def notice (directory : String) (f : Finding) : String :=
  "\n[!] " ++ f.category ++ ": " ++ Text.quote f.line ++ " -> " ++
    pathIn directory f.fileName ++ "\n"

end Finding

/-- Counts of tries and of what came of them. -/
structure Tally where
  iterations : Nat
  accepted : Nat
  rejected : Nat
  crashes : Nat
  timeouts : Nat
deriving DecidableEq, Repr

namespace Tally

/-- Nothing was tried yet. -/
def zero : Tally := ⟨0, 0, 0, 0, 0⟩

/-- Counts a try. -/
def begin (t : Tally) : Tally := { t with iterations := t.iterations + 1 }

/-- Counts what came of a try. -/
def count (t : Tally) : Verdict → Tally
  | .accepted => { t with accepted := t.accepted + 1 }
  | .rejected => { t with rejected := t.rejected + 1 }
  | .timedOut _ => { t with timeouts := t.timeouts + 1 }
  | .crashed _ => { t with crashes := t.crashes + 1 }

/-- How many tries were findings. -/
def findings (t : Tally) : Nat := t.crashes + t.timeouts

/-- The counts in words. -/
def text (t : Tally) : String :=
  "iterations=" ++ toString t.iterations ++ " ok=" ++ toString t.accepted ++
    " rejected=" ++ toString t.rejected ++ " crashes=" ++ toString t.crashes ++
    " timeouts=" ++ toString t.timeouts

end Tally

/-- What is noted while lines are tried: the counts, the findings that are kept, and what was
printed, the newest at the front. -/
structure Notebook where
  tally : Tally
  findings : List Finding
  printed : List String

namespace Notebook

/-- Nothing was tried yet. -/
def empty : Notebook := ⟨.zero, [], []⟩

/-- Notes that a text is printed. -/
def print (b : Notebook) (text : String) : Notebook := { b with printed := text :: b.printed }

/-- All that was printed. -/
def output (b : Notebook) : String := String.join b.printed.reverse

/-- Keeps a finding, unless one of its name is kept already. -/
def keep (directory : String) (b : Notebook) (f : Finding) : Notebook :=
  if f.digest ∈ b.findings.map Finding.digest then b
  else { b with findings := f :: b.findings }.print (f.notice directory)

/-- Notes a verdict on a line. -/
def record (directory : String) (b : Notebook) (line : String) (verdict : Verdict) : Notebook :=
  let counted := { b with tally := b.tally.count verdict }
  match verdict.fault? with
  | none => counted
  | some fault => counted.keep directory ⟨verdict.name, line, fault⟩

/-- The files of the findings, in the order of their names. -/
def files (b : Notebook) : List (String × List String) :=
  (b.findings.map fun f => (f.fileName, f.fileLines)).mergeSort fun x y => decide (x.1 ≤ y.1)

end Notebook

end CommandLine.Fuzz
