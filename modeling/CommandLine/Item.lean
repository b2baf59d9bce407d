import CommandLine.Position
import CommandLine.Terminal
import CommandLine.Text.Quoted

/-!
# Items of a line

What a line consists of: tokens, which are put together to values, keywords with a value, and flags.
A value is one token or a list of values. This is the shape of a line before any number is read or
any quote is taken off.
-/

namespace CommandLine

/-! ## Tokens -/

/-- A piece of a line. -/
structure Token where
  symbol : Symbol
  text : String
  start : Position
  stop : Position
deriving DecidableEq, Repr

/-- A token as it is shown, by its symbol's name and its text. -/
def Token.textOf (name text : String) : String :=
  "Token(" ++ Text.quote name ++ ", " ++ Text.quote text ++ ")"

namespace Token

/-- The token of a terminal that is read at a place. -/
def read (t : Terminal) (lexeme : List Char) (start : Position) : Token :=
  ⟨.terminal t, String.ofList lexeme, start, start.advance lexeme⟩

/-- A token as it is shown. -/
def shown (t : Token) : String := textOf t.symbol.name t.text

end Token

/-! ## Values and items -/

/-- A value as it is written. -/
inductive Phrase where
  | scalar (form : Scalar) (token : Token)
  | list (elements : List Phrase)
deriving Repr

/-- A top-level part of a line. -/
inductive Item where
  | keyword (key : Token) (value : Phrase)
  | flag (token : Token)
  | value (phrase : Phrase)
deriving Repr

end CommandLine
