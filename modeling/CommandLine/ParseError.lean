import CommandLine.Position
import CommandLine.Terminal
import CommandLine.Text.Quoted

/-!
# Parse errors

What is told about a line that cannot be accepted: where, what was found there, and what could
have stood there instead. The place is kept as an offset in characters; line, column and byte are
computed from the text.
-/

namespace CommandLine

/-- What was found at the place of an error. -/
inductive Reason where
  | endOfInput
  | unexpected (found : String)
  | doesNotFit (literal : String)
  | stated (words : String)
deriving DecidableEq, Repr

namespace Reason

/-- The wording of a reason. -/
def message : Reason → String
  | endOfInput => "unexpected end of input"
  | unexpected found => "unexpected " ++ Text.quote found
  | doesNotFit literal => "integer " ++ literal ++ " does not fit in 64 bits"
  | stated words => words

/-- The reason when nothing else is known: the character at the offset, or the end of the text. -/
def ofOffset (cs : List Char) (offset : Nat) : Reason :=
  match cs[offset]? with
  | some c => unexpected (String.singleton c)
  | none => endOfInput

end Reason

/-- Strings in the order of their code points, each once. -/
def sortedDistinct (names : List String) : List String :=
  names.eraseDups.mergeSort (fun a b => decide (a ≤ b))

/-- An error at a place of a text. The expected symbols are a set: order and repetition do not
matter. -/
structure ParseError where
  text : String
  offset : Nat
  expected : List Symbol
  reason : Reason
deriving DecidableEq, Repr

namespace ParseError

/-- An error at an offset, where the text itself tells the reason. -/
def atOffset (text : String) (offset : Nat) (expected : List Symbol) : ParseError :=
  ⟨text, offset, expected, Reason.ofOffset text.toList offset⟩

/-- Line and column of the error. -/
def position (e : ParseError) : Position := Position.locate e.text.toList e.offset

/-- How many bytes of UTF-8 precede the error. -/
def bytePosition (e : ParseError) : Nat := Position.bytesBefore e.text.toList e.offset

/-- Names of the expected symbols, sorted, each once. -/
def expectedNames (e : ParseError) : List String := sortedDistinct (e.expected.map Symbol.name)

/-- Descriptions of the expected symbols, sorted, each once. -/
def describeExpected (e : ParseError) : List String :=
  sortedDistinct (e.expected.map Symbol.description)

/-- The error on one line: reason, byte, and what was expected, if anything. -/
def message (e : ParseError) : String :=
  e.reason.message ++ " at byte " ++ toString e.bytePosition ++
    if e.expected.isEmpty then "" else "; expected " ++ ", ".intercalate e.describeExpected

/-- The part of the line shown below a message: at most `span` characters to either side of the
offset. -/
def snippet (e : ParseError) (span : Nat) : List Char :=
  let cs := e.text.toList
  let left := max (Position.lineStart cs e.offset) (e.offset - span)
  let right := min (Position.lineEnd cs e.offset) (e.offset + span)
  (cs.take right).drop left

/-- How far the caret stands to the right of the snippet's first character. -/
def caretColumn (e : ParseError) (span : Nat) : Nat :=
  e.offset - max (Position.lineStart e.text.toList e.offset) (e.offset - span)

/-- The snippet, and below it a caret under the place of the error. -/
def context (e : ParseError) (span : Nat) : String :=
  String.ofList (e.snippet span ++ '\n' :: List.replicate (e.caretColumn span) ' ' ++ ['^'])

/-- How much of the line is shown where nobody says otherwise. -/
def defaultSpan : Nat := 20

end ParseError

end CommandLine
