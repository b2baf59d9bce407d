import CommandLine.Fuzz.Generator
import CommandLine.Text.Character

/-!
# Mutations

Small random changes of a line. Each keeps the rest of the line as it is, and gives the line itself
back where there is nothing to change.
-/

namespace CommandLine.Fuzz
open Draw CommandLine.Text

variable {m : Type → Type} [Monad m] [Drawing m]

/-- Texts that separate the parts of a line. -/
def separators : List (List Char) :=
  texts [" ", "  ", "\t", ",", ", ", ":", ": ", "..", "-", "[", "]", "\"", "\\"]

/-- Texts that one delimiter is replaced with. -/
def delimiters : List (List Char) := texts [":", "..", "-", ",", " ", "\"", "[", "]", "//"]

/-- Integers at the limits of 64 bits. -/
def int64Edges : List (List Char) :=
  texts ["0", "-0", "9223372036854775807", "-9223372036854775808", "9223372036854775808",
    "-9223372036854775809", "0009223372036854775807"] ++ [List.replicate 25 '1']

/-- What a token is wrapped in. -/
def wrappers : List (List Char × List Char) :=
  [(['['], [']']), (['"'], ['"']), (List.replicate 50 '[', List.replicate 50 ']')]

/-! ## Places in a line -/

/-- A stretch of a line: where it begins and how long it is. -/
structure Span where
  start : Nat
  length : Nat
deriving DecidableEq, Inhabited, Repr

/-- The stretches of a text, from left to right and without overlap. The function tells how long a
stretch at the front of a text is, or zero if there is none. -/
def spansFrom (lengthAt : List Char → Nat) (start : Nat) : List Char → List Span
  | [] => []
  | c :: cs =>
    match lengthAt (c :: cs) with
    | 0 => spansFrom lengthAt (start + 1) cs
    | length + 1 => ⟨start, length + 1⟩ :: spansFrom lengthAt (start + length + 1) (cs.drop length)
termination_by cs => cs.length
decreasing_by
  · simp
  · simp only [List.length_drop, List.length_cons]; omega

/-- How long the delimiter at the front of a text is. -/
def delimiterLength : List Char → Nat
  | '.' :: '.' :: _ => 2
  | '/' :: '/' :: _ => 2
  | c :: _ => if c ∈ [':', '-', ',', ' ', '"', '[', ']'] then 1 else 0
  | [] => 0

/-- How many blanks stand at the front of a text. -/
def blankLength (cs : List Char) : Nat := (cs.takeWhile isBlank).length

/-- A line with a stretch replaced. -/
def replaceSpan (line : List Char) (span : Span) (new : List Char) : List Char :=
  line.take span.start ++ new ++ line.drop (span.start + span.length)

/-- The longest runs of digits and of other characters, in order. -/
def digitRuns (line : List Char) : List (List Char) :=
  line.splitBy fun a b => isAsciiDigit a == isAsciiDigit b

/-! ## The mutations -/

/-- Puts a random token anywhere. -/
def insertToken (line : List Char) : m (List Char) := do
  let place ← between 0 line.length
  let separator ← pick separators
  let key ← identifier
  let flag ← identifier
  let anything ← value nesting
  let token ← pick [separator, key ++ [':'], '-' :: flag, anything.written]
  return replaceSpan line ⟨place, 0⟩ token

/-- Takes up to eight characters away. -/
def dropSpan (line : List Char) : m (List Char) := do
  if line.length < 2 then return line
  else
    let start ← below line.length
    let length ← between 1 8
    return replaceSpan line ⟨start, length⟩ []

/-- Replaces one delimiter. -/
def swapDelimiter (line : List Char) : m (List Char) := do
  let spans := spansFrom delimiterLength 0 line
  if spans = [] then return line
  else
    let span ← pick spans
    return replaceSpan line span (← pick delimiters)

/-- Takes the blanks between two neighbours away. -/
def glueTokens (line : List Char) : m (List Char) := do
  let spans := spansFrom blankLength 0 line
  if spans = [] then return line
  else
    return replaceSpan line (← pick spans) []

/-- Puts brackets or quotes around one of the pieces between spaces. -/
def wrapToken (line : List Char) : m (List Char) := do
  let pieces := line.splitOn ' '
  let place ← below pieces.length
  let (left, right) ← pick wrappers
  return joined [' '] (pieces.modify place fun piece => left ++ piece ++ right)

/-- A run of digits, in half of the cases replaced by an integer at the limits. Other runs are
kept. -/
def edgeRun (run : List Char) : m (List Char) := do
  if run.any isAsciiDigit then
    if ← chance 50 then pick int64Edges else return run
  else return run

/-- Replaces runs of digits. -/
def edgeRuns (line : List Char) : m (List Char) := do
  return (← (digitRuns line).mapM edgeRun).flatten

/-- The kinds of mutation. -/
inductive Mutation where
  | insertToken | dropSpan | swapDelimiter | glueTokens | wrapToken | edgeRuns
deriving DecidableEq, Inhabited, Repr

/-- All kinds of mutation. -/
def Mutation.all : List Mutation :=
  [insertToken, dropSpan, swapDelimiter, glueTokens, wrapToken, edgeRuns]

/-- Makes a change of some kind. -/
def Mutation.apply : Mutation → List Char → m (List Char)
  | insertToken => Fuzz.insertToken
  | dropSpan => Fuzz.dropSpan
  | swapDelimiter => Fuzz.swapDelimiter
  | glueTokens => Fuzz.glueTokens
  | wrapToken => Fuzz.wrapToken
  | edgeRuns => Fuzz.edgeRuns

/-- Makes a random change. -/
def mutate (line : List Char) : m (List Char) := do
  (← pick Mutation.all).apply line

/-- Makes a number of random changes. -/
def mutateTimes : Nat → List Char → m (List Char)
  | 0, line => return line
  | n + 1, line => do mutateTimes n (← mutate line)

/-- The next line to try: a new one, a changed one of the corpus, or one of the corpus as it is. -/
def nextLine (corpus : List String) : m (List Char) := do
  let roll ← fraction
  if isBelow roll 30 then
    line
  else if isBelow roll 90 then
    let chosen ← pick corpus
    mutateTimes (← between 1 4) chosen.toList
  else
    return (← pick corpus).toList

end CommandLine.Fuzz
