import CommandLine.Fuzz.Draft
import CommandLine.Fuzz.Source
import CommandLine.Numeral.DoubleText

/-!
# Random lines

Lines made of random items: keywords, flags and values of every form, lists up to four levels
deep. Items are drawn as drafts, and written down when all of them are drawn.
-/

namespace CommandLine.Fuzz
open Draw

variable {m : Type → Type} [Monad m] [Drawing m]

/-- Texts as lists of characters. -/
def texts (ss : List String) : List (List Char) := ss.map String.toList

/-- Names that are common or unusual. -/
def identifiers : List (List Char) :=
  texts ["x", "id", "chat", "reason", "offset", "dry-run", "_private", "имя", "True"]

/-- Words that are easily mistaken for something else. -/
def barewords : List (List Char) :=
  texts ["@username", "30m", "2w3d3h5s", "https://t.me/c/1/2", "a:b", "..", "-", "*"]

/-- Numbers at the limits of what can be represented. -/
def edgeNumbers : List (List Char) :=
  texts ["0", "-0", "0.0", "9223372036854775807", "-9223372036854775808", "9223372036854775808",
    "1e999", "-1", "0.001"]

/-- The letters of both cases. -/
def asciiLetters : List Char := "abcdefghijklmnopqrstuvwxyzABCDEFGHIJKLMNOPQRSTUVWXYZ".toList

/-- The ten digits. -/
def asciiDigits : List Char := "0123456789".toList

/-- The characters of random quoted strings: all of ASCII that can be printed, and white space, but
neither the quote nor the backslash. -/
def stringChars : List Char :=
  asciiDigits ++ asciiLetters ++ "!#$%&'()*+,-./:;<=>?@[]^_\x60\x7b|\x7d~ \t\n\r\x0b\x0c".toList

/-- A name: mostly one of the list, else random. -/
def identifier : m (List Char) := do
  if ← chance 70 then
    pick identifiers
  else
    let length ← between 1 12
    let first ← pick (asciiLetters ++ ['_'])
    let rest ← times (length - 1) (pick (asciiLetters ++ asciiDigits ++ ['_', '-']))
    return first :: rest

/-- A number between -100 and 100 with three decimal places. -/
def smallDecimal : m (List Char) := do
  let numerator : Int := 200 * (← fraction) - 100 * grain
  return (Double.fixedRatio 3 (decide (numerator < 0)) numerator.natAbs grain).toList

/-- A number in scientific notation. -/
def scientific : m (List Char) := do
  let coefficient ← between 1 999
  let sign ← pick [[], ['-'], ['+']]
  let exponent ← between 0 20
  return Numeral.digits coefficient ++ 'e' :: sign ++ Numeral.digits exponent

/-- An integer or a decimal number. -/
def number : m (List Char) := do
  let form ← fraction
  if isBelow form 40 then
    return Numeral.decimalChars (← around (Nat.pow 10 13))
  else if isBelow form 70 then
    smallDecimal
  else if isBelow form 85 then
    scientific
  else
    pick edgeNumbers

/-- A quoted string. -/
def quotedString : m (List Char) := do
  if ← chance 10 then
    pick (texts ["\"\"", "\"test\"", "\" \"", "\"a \\\" b\"", "\"[1, 2]\""])
  else
    let length ← between 0 30
    return '"' :: (← times length (pick stringChars)) ++ ['"']

/-- A range, with or without its lower bound. -/
def boundedRange : m (List Char) := do
  let low ← around 50
  let high ← around 50
  let upTo := '.' :: '.' :: Numeral.decimalChars high
  pick [Numeral.decimalChars low ++ upTo, upTo]

/-- A value that is one token. -/
def scalar : m (List Char) := do
  match (← between 0 5) with
  | 0 => number
  | 1 => pick (texts ["true", "false", "TRUE", "False"])
  | 2 => quotedString
  | 3 => pick barewords
  | 4 => boundedRange
  | _ => identifier

/-- A value in which lists nest at most `levels` deep. -/
def value : Nat → m Draft
  | 0 => return .word (← scalar)
  | levels + 1 => do
    if ← chance 70 then
      return .word (← scalar)
    else
      let count ← between 1 4
      return .list (← times count (value levels))

/-- How deep lists nest in a random line. -/
def nesting : Nat := 4

/-- A part of a line. -/
def item : m DraftItem := do
  match (← between 0 2) with
  | 0 =>
    let name ← identifier
    let gap ← pick [[], [' ']]
    return .keyword name gap (← value nesting)
  | 1 => return .flag (← identifier)
  | _ => return .value (← value nesting)

/-- The one to eight items of a line. -/
def items : m (List DraftItem) := do
  let count ← between 1 8
  times count item

/-- A random line. -/
def line : m (List Char) := do return DraftItem.lineOf (← items)

end CommandLine.Fuzz
