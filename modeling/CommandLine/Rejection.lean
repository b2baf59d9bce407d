import CommandLine.Item
import CommandLine.ParseError

/-!
# Rejections

The ways in which the reading of a line can stop, and the error each is reported as.
-/

namespace CommandLine

/-- Why a line was not read to its end. -/
inductive Rejection where
  /-- No token begins at this offset. -/
  | character (offset : Nat) (expected : List Symbol)
  /-- A token that cannot stand where it stands. -/
  | token (found : Token) (expected : List Symbol)
  /-- The line ends where more has to come. -/
  | endOfInput (expected : List Symbol)
  /-- Something of which at most the offset is known; a negative one stands for none. -/
  | other (offset : Int)
deriving Repr

namespace Rejection

/-- The error that a rejection of a text is reported as. The end of the line, also as a token,
lies behind the last character. -/
def toError (text : String) : Rejection → ParseError
  | character offset expected => ParseError.atOffset text offset expected
  | token found expected =>
    if found.symbol = .endOfInput then ParseError.atOffset text text.length expected
    else ⟨text, found.start.offset, expected, .unexpected found.text⟩
  | endOfInput expected => ParseError.atOffset text text.length expected
  | other offset => ParseError.atOffset text offset.toNat []

end Rejection

end CommandLine
