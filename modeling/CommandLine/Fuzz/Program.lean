import CommandLine.Fuzz.Campaign
import CommandLine.Numeral.DoubleReader
import CommandLine.Options

/-!
# Campaigns as a program

The options of a campaign, and a whole run from the words it is called with to the text it prints.
-/

namespace CommandLine.Fuzz

/-- Whether a text is an integer. -/
def isInteger (s : String) : Bool := (Numeral.readInteger s.toList).toOption.isSome

/-- Minutes. -/
def durationOption : Options.Switch :=
  ⟨"--duration", some fun s => (Double.read? s.toList).isSome⟩

/-- How many lines are tried. -/
def iterationsOption : Options.Switch := ⟨"--iterations", some isInteger⟩

/-- Where the random numbers start. -/
def seedOption : Options.Switch := ⟨"--seed", some isInteger⟩

/-- Where findings are kept. -/
def directoryOption : Options.Switch := ⟨"--findings-dir", some fun _ => true⟩

/-- How the program is called. -/
structure Call where
  duration : Options.Choice Double
  iterations : Options.Choice Int
  seed : Options.Choice Int
  directory : Options.Choice String

/-- The root that a path begins with. Two slashes are a root of their own; one slash and more than
two are the usual one. -/
def rootOf (path : List Char) : List Char :=
  match path.takeWhile (· == '/') with
  | [] => []
  | ['/', '/'] => ['/', '/']
  | _ => ['/']

/-- A path without empty parts and parts that stay where they are. -/
def tidyPath (path : String) : String :=
  let parts := (path.toList.splitOn '/').filter fun part => part ≠ [] ∧ part ≠ ['.']
  let tidy := rootOf path.toList ++ ['/'].intercalate parts
  if tidy = [] then "." else String.ofList tidy

/-- The call that some words make. -/
def Call.read (words : List String) : Except Options.Stop Call :=
  let switches := [durationOption, iterationsOption, seedOption, directoryOption]
  (Options.read switches words).map fun given =>
    let integer (name : String) : Options.Choice Int :=
      (Options.valueOf name given).bind fun s => (Numeral.readInteger s.toList).toOption
    ⟨(Options.valueOf durationOption.name given).bind fun s => Double.read? s.toList,
      integer iterationsOption.name, integer seedOption.name,
      Options.valueOf directoryOption.name given⟩

/-- Why a call cannot be carried out. -/
inductive CallFault where
  | blankDirectory
  /-- The path of the directory holds the character zero. -/
  | zeroInDirectory
  | blankIterations
deriving DecidableEq, Repr

/-- The wording of a fault in a call. -/
def CallFault.message : CallFault → String
  | blankDirectory => "expected str, bytes or os.PathLike object, not list"
  | zeroInDirectory => "embedded null byte"
  | blankIterations => "'>=' not supported between instances of 'int' and 'list'"

/-- The directory of a call. -/
def Call.directoryOr (call : Call) (default : String) : Except CallFault String :=
  match call.directory with
  | .unset => .ok (tidyPath default)
  | .blank => .error .blankDirectory
  | .value path =>
    if '\x00' ∈ path.toList then .error .zeroInDirectory else .ok (tidyPath path)

/-- The integer part of a double, zero if it has none. -/
def wholePart : Double → Int
  | .finite negative rank => (Double.signedUnits negative rank).tdiv Double.unitsPerOne
  | _ => 0

/-- The seed of a call: the one that is given, or else the time in whole seconds. A blank one is
left blank. -/
def Call.seedOr (call : Call) (clock : Clock) : Option Int × Clock :=
  match call.seed with
  | .value seed => (some seed, clock)
  | .blank => (none, clock)
  | .unset =>
    let (now, clock) := clock.read
    (some (wholePart now), clock)

/-- What is printed about a seed. A blank one is shown as an empty list. -/
def seedNotice (seed : Option Int) : String :=
  "Random seed: " ++ (match seed with
    | some n => Numeral.decimal n
    | none => "[]") ++ "\n"

/-- The source of random numbers for a seed. A blank one counts as zero. -/
def sourceOf (seed : Option Int) : Source := .ofSeed (seed.getD 0) []

/-- The settings of a call. A blank duration is none. -/
def Call.settings (call : Call) (directory : String) : Settings :=
  ⟨call.duration.toOption, call.iterations.toOption, none, directory, fun _ => Verdict.ofLine⟩

/-- What comes of a run of the program. -/
inductive Outcome where
  /-- The words were no proper call, or asked for help. -/
  | stopped (stop : Options.Stop)
  /-- The call could not be carried out. -/
  | broken (fault : CallFault)
  /-- A campaign took place: what was printed, and whether there were findings. -/
  | ran (printed : String) (found : Bool)

/-- Carries out a call. A blank number of lines is noticed when it is first compared with the
number of lines tried, which is not before there is time for a line. -/
def Call.carryOut (call : Call) (defaultDirectory : String) (clock : Clock) (turns : Nat) :
    Outcome :=
  match call.directoryOr defaultDirectory with
  | .error fault => .broken fault
  | .ok directory =>
    let (seed, clock) := call.seedOr clock
    let settings := call.settings directory
    let beginning := Campaign.begin settings (sourceOf seed) clock
    if call.iterations = .blank ∧ beginning.hasTime.1 = true then .broken .blankIterations
    else
      let c := (Campaign.carryOn settings turns beginning).close
      .ran (seedNotice seed ++ c.notebook.output) (c.result != 0)

/-- Runs the program on some words. -/
def program (defaultDirectory : String) (words : List String) (clock : Clock) (turns : Nat) :
    Outcome :=
  match Call.read words with
  | .error stop => .stopped stop
  | .ok call => call.carryOut defaultDirectory clock turns

end CommandLine.Fuzz
