import CommandLine.Text.Character

/-!
# Options of a program

How the words that a program is called with are read as options. Long options begin with two
dashes; they may be cut short as long as one option remains, and a value stands behind the option
as a word of its own or behind an equals sign, where two dashes stand for no value at all. There
are no positional words, so whatever is no option and no value of one is a misuse. Every program
has `-h` and `--help`.
-/

namespace CommandLine.Options
open CommandLine.Text

/-- A long option: its name with both dashes, and for an option with a value what values it
takes. -/
structure Switch where
  name : String
  value : Option (String → Bool)

/-- How the reading of options ends other than with options. -/
inductive Stop where
  | help
  | misuse
deriving DecidableEq, Repr

/-- An option that is given, with its value. One that takes no value has none, and neither has one
with nothing for its value. -/
structure Given where
  name : String
  value : Option String
deriving DecidableEq, Repr

/-- What is known of the value of an option. -/
inductive Choice (α : Type) where
  /-- The option is not given. -/
  | unset
  /-- The option is given, with nothing for its value. -/
  | blank
  | value (a : α)
deriving DecidableEq, Repr

namespace Choice

variable {α β : Type}

/-- The value, if there is one. -/
def toOption : Choice α → Option α
  | value a => some a
  | _ => none

/-- The value read in some way. A value that cannot be read counts as unset. -/
def bind (read : α → Option β) : Choice α → Choice β
  | unset => unset
  | blank => blank
  | value a =>
    match read a with
    | some b => value b
    | none => unset

end Choice

/-- The two names under which help is asked for. -/
def helpNames : List String := ["-h", "--help"]

/-- What belongs to an option within the same word. -/
inductive Attached where
  | nothing
  /-- A text behind an equals sign. -/
  | value (text : String)
  /-- Characters directly behind a name of one letter. -/
  | letters (cs : List Char)
deriving DecidableEq, Repr

/-- What a word looks like before its neighbours are looked at. -/
inductive Word where
  /-- One of the known options, and what is attached to it. -/
  | option (name : String) (attached : Attached)
  /-- Something like an option that is not known. -/
  | unknown
  /-- Two dashes alone. -/
  | dashes
  /-- Anything else. -/
  | argument (text : String)
deriving DecidableEq, Repr

/-- A minus sign and a number without exponent; such a word is a value and no option. -/
def isNegativeNumber : List Char → Bool
  | '-' :: cs =>
    let cs := if cs.getLast? = some '\n' then cs.dropLast else cs
    let fraction := (cs.dropWhile isDigit).drop 1
    (!cs.isEmpty && cs.all isDigit) ||
      ((cs.dropWhile isDigit).head? == some '.' && !fraction.isEmpty && fraction.all isDigit)
  | _ => false

/-- A text cut at its first equals sign. -/
def cutAtEquals (cs : List Char) : List Char × Attached :=
  match cs.dropWhile (· != '=') with
  | [] => (cs, .nothing)
  | _ :: rest => (cs.takeWhile (· != '='), .value (String.ofList rest))

/-- The options that a shortened word may mean, each with what is attached to it. -/
def completions (names : List String) (word : List Char) : List Word :=
  match word with
  | '-' :: '-' :: _ =>
    let (stem, attached) := cutAtEquals word
    (names.filter fun n => stem.isPrefixOf n.toList).map (.option · attached)
  | _ =>
    (names.filter fun n => n.toList = word.take 2).map (.option · (.letters (word.drop 2)))

/-- What a word looks like, or nothing if it may mean several options. -/
def classify (names : List String) (text : String) : Option Word :=
  let word := text.toList
  if word.head? ≠ some '-' then some (.argument text)
  else if text ∈ names then some (.option text .nothing)
  else if word.length = 1 then some (.argument text)
  else
    let (stem, attached) := cutAtEquals word
    if attached ≠ .nothing ∧ String.ofList stem ∈ names then
      some (.option (String.ofList stem) attached)
    else match completions names word with
      | [only] => some only
      | [] =>
        some (if isNegativeNumber word || word.contains ' ' then .argument text else .unknown)
      | _ => none

/-- What the words look like, in order. Behind two dashes nothing is an option. -/
def classifyAll (names : List String) : List String → Option (List Word)
  | [] => some []
  | text :: rest =>
    if text = "--" then some (.dashes :: rest.map .argument)
    else match classify names text with
      | none => none
      | some word => (classifyAll names rest).map (word :: ·)

/-- How reading ends at characters behind the short name of help. They are options of one letter,
of which help is the only one known. -/
def helpLetters (cs : List Char) : Stop :=
  if !cs.isEmpty && cs.all (· == 'h') then .help else .misuse

/-- How reading ends at a help option. Behind its short name an equals sign makes no difference. -/
def helpStop (name : String) : Attached → Stop
  | .nothing => .help
  | .value text => if name = "-h" then helpLetters text.toList else .misuse
  | .letters cs => helpLetters cs

/-- The value that stands for no value where it is attached to an option. -/
def blankValue : String := "--"

/-- Reads classified words from left to right. Words that belong to no option are told at the end
only. -/
def readWords (switches : List Switch) (stray : Bool) (given : List Given) :
    List Word → Except Stop (List Given)
  | [] => if stray then .error .misuse else .ok given.reverse
  | .argument _ :: rest => readWords switches true given rest
  | .unknown :: rest => readWords switches true given rest
  | .dashes :: rest => readWords switches true given rest
  | .option name attached :: rest =>
    match switches.find? (·.name = name) with
    | none => .error (helpStop name attached)
    | some switch =>
      match switch.value, attached, rest with
      | none, .nothing, rest => readWords switches stray (⟨name, none⟩ :: given) rest
      | some takes, .value value, rest =>
        if value = blankValue then readWords switches stray (⟨name, none⟩ :: given) rest
        else if takes value then readWords switches stray (⟨name, some value⟩ :: given) rest
        else .error .misuse
      | some takes, .nothing, .argument value :: rest =>
        if takes value then readWords switches stray (⟨name, some value⟩ :: given) rest
        else .error .misuse
      | _, _, _ => .error .misuse

/-- The options that some words give, in order. -/
def read (switches : List Switch) (words : List String) : Except Stop (List Given) :=
  match classifyAll (helpNames ++ switches.map Switch.name) words with
  | none => .error .misuse
  | some classified => readWords switches false [] classified

/-- Whether an option is given. -/
def isGiven (name : String) (given : List Given) : Bool := given.any (·.name = name)

/-- The value of an option, the last one if there are several. -/
def valueOf (name : String) (given : List Given) : Choice String :=
  match given.reverse.find? (·.name = name) with
  | none => .unset
  | some ⟨_, none⟩ => .blank
  | some ⟨_, some value⟩ => .value value

end CommandLine.Options
