import CommandLine.Fuzz.Mutation
import CommandLine.Fuzz.Notebook

/-!
# Campaigns

A campaign tries line after line until its time is over, enough lines are tried, or someone
interrupts it. Some of the lines tried join the corpus, which new lines are made from. One turn of
the loop is `Campaign.turn`; a run repeats it.
-/

namespace CommandLine.Fuzz

/-- A clock that goes on by a fixed step with every reading. -/
structure Clock where
  reading : Double
  step : Double

/-- Reads the clock. -/
def Clock.read (c : Clock) : Double × Clock :=
  (c.reading, { c with reading := c.reading.add c.step })

/-- Lines to begin with. -/
def seedCorpus : List String :=
  ["",
    "1 2 -3 -3.5",
    "arg1 arg2 arg3 4arg",
    "kw: 1 kwargs: True",
    "-flag1 -flag2",
    "kw: \"String with spaces\"",
    "vals: [1, 2, 3] [1,2,3]",
    "range: 1..10 -5..15 ..10",
    "\"t e\\\" s t\"",
    "-overwrite offset: 30m",
    "777000 -mention -id",
    "@username",
    "https://t.me/joinchat/CkzknkNYuLsKbTc91GfhGw",
    "reason: \"spam[gban]\"",
    "777000 \"ban reason\" link: https://t.me/c/1129887931/26708",
    "-1001129887931 -strafanzeige polizei: exclude",
    "chats: [-1001129887931, -1001367463001]",
    "arg: [123, 456] arg2: [\"abc\", \"de f\", \"xyz\"]",
    "1e4 2.5e4 125e-5",
    "nested: [[1, 2], [true, \"x\"], ..3]"]

/-- How many lines the corpus has at most. -/
def corpusLimit : Nat := 1000

/-- How many characters a line has at least that joins the corpus only as a finding. -/
def longLine : Nat := 300

/-- After how many tries the counts are printed. -/
def reportInterval : Nat := 1000

/-- The limits of a campaign, and how it judges lines. -/
structure Settings where
  /-- Minutes. No minutes at all mean no limit. -/
  duration : Option Double
  /-- How many lines are tried. -/
  iterations : Option Int
  /-- Which try, counted from zero, is interrupted. -/
  interruptAt : Option Nat
  /-- Where findings are kept. -/
  directory : String
  /-- The verdict on a line in a try, counted from zero. -/
  judge : Nat → String → Verdict

/-- A campaign under way. New lines are made from those of the corpus; lines that were tried are
kept with their verdicts, newest first. -/
structure Campaign where
  source : Source
  clock : Clock
  start : Double
  deadline : Option Double
  corpus : List String
  tried : List (String × Verdict)
  notebook : Notebook

namespace Campaign

/-- Makes a draw from the source of a campaign. -/
def draw {α : Type} (c : Campaign) (d : Draw α) : α × Campaign :=
  let (x, source) := d.run c.source
  (x, { c with source })

/-- Notes that a text is printed. -/
def print (c : Campaign) (text : String) : Campaign := { c with notebook := c.notebook.print text }

/-- Reads the clock of a campaign. -/
def readClock (c : Campaign) : Double × Campaign :=
  let (now, clock) := c.clock.read
  (now, { c with clock })

/-- Prints the time since the start, and the counts. -/
def printTally (c : Campaign) : Campaign :=
  let (now, c) := c.readClock
  c.print ("[" ++ (now.sub c.start).fixed 1 ++ "s] " ++ c.notebook.tally.text ++ "\n")

/-- The moment at which the time of a campaign is over. -/
def deadlineOf (start : Double) (duration : Option Double) : Option Double :=
  match duration with
  | none => none
  | some minutes =>
    if minutes.sameAs (.zero false) then none else some (start.add (minutes.mul (.ofInt 60)))

/-- A campaign at its start. -/
def begin (settings : Settings) (source : Source) (clock : Clock) : Campaign :=
  let (start, clock) := clock.read
  let c : Campaign :=
    ⟨source, clock, start, deadlineOf start settings.duration, seedCorpus, [], .empty⟩
  c.print ("Fuzzing with " ++ toString c.corpus.length ++ " seed inputs, findings in " ++
    settings.directory ++ "\n")

/-- Looks at the clock, if there is a deadline, and tells whether time is left. -/
def hasTime (c : Campaign) : Bool × Campaign :=
  match c.deadline with
  | none => (true, c)
  | some deadline =>
    let (now, c) := c.readClock
    (now.less deadline, c)

/-- Whether enough lines were tried. -/
def isEnough (settings : Settings) (c : Campaign) : Bool :=
  match settings.iterations with
  | none => false
  | some limit => decide (limit ≤ (c.notebook.tally.iterations : Int))

/-- Whether a line that was tried joins the corpus: findings do, and few of the shorter lines. -/
def joins (line : String) (verdict : Verdict) : Draw Bool := do
  if verdict.isFinding then return true
  else if line.length < longLine then Draw.chance 2
  else return false

/-- Takes a line out of a corpus, at a place behind as many lines as the seed corpus has. -/
def evict {m : Type → Type} [Monad m] [Drawing m] (corpus : List String) : m (List String) := do
  return corpus.eraseIdx (← Draw.within seedCorpus.length corpus.length)

/-- A line joins the corpus, which is kept within its limit. -/
def join (c : Campaign) (line : String) : Campaign :=
  let corpus := c.corpus ++ [line]
  if corpusLimit < corpus.length then
    let (corpus, c) := c.draw (evict corpus)
    { c with corpus }
  else { c with corpus }

/-- Tries a line: notes the verdict and lets the line join the corpus. -/
def tryLine (settings : Settings) (c : Campaign) (line : String) : Campaign :=
  let verdict := settings.judge c.tried.length line
  let c : Campaign :=
    { c with
      tried := (line, verdict) :: c.tried
      notebook := c.notebook.record settings.directory line verdict }
  let (joining, c) := c.draw (joins line verdict)
  if joining then c.join line else c

/-- Prints the counts after every so many tries. -/
def report (c : Campaign) : Campaign :=
  if c.notebook.tally.iterations % reportInterval = 0 then c.printTally else c

/-- What a turn leads to. -/
inductive Turn where
  | ended (c : Campaign)
  | interrupted (c : Campaign)
  | goOn (c : Campaign)

/-- One turn: a look at the clock and at the count, then one line. -/
def turn (settings : Settings) (c : Campaign) : Turn :=
  let (inTime, c) := c.hasTime
  if !inTime then .ended c
  else if c.isEnough settings then .ended c
  else
    let c := { c with notebook := { c.notebook with tally := c.notebook.tally.begin } }
    let (line, c) := c.draw (nextLine c.corpus)
    if settings.interruptAt = some c.tried.length then .interrupted c
    else .goOn (c.tryLine settings (String.ofList line)).report

/-- The end of a campaign: the final counts. -/
def finish (c : Campaign) : Campaign := (c.print "Final Statistics:\n").printTally

/-- A campaign behind its last turn. An interruption is told before the final counts. -/
def Turn.close : Turn → Campaign
  | ended c => c.finish
  | interrupted c => (c.print "\nInterrupted\n").finish
  | goOn c => c.finish

/-- What so many turns at most lead to. -/
def carryOn (settings : Settings) : Nat → Campaign → Turn
  | 0, c => .goOn c
  | turns + 1, c =>
    match c.turn settings with
    | .ended c => .ended c
    | .interrupted c => .interrupted c
    | .goOn c => carryOn settings turns c

/-- A whole campaign of so many turns at most. -/
def run (settings : Settings) (source : Source) (clock : Clock) (turns : Nat) : Campaign :=
  (carryOn settings turns (begin settings source clock)).close

/-- How many tries were findings. -/
def result (c : Campaign) : Nat := c.notebook.tally.findings

end Campaign

end CommandLine.Fuzz
