/-!
# Terminals

The kinds of token on a command line, their names, and what they are called in messages. A symbol
is whatever may be asked for at a place of a line: a terminal, the end of the line, or a name that
is none of these.
-/

namespace CommandLine

/-- The forms of a value that is a single token. -/
inductive Scalar where
  | range | rangeTo | bool | float | int | quoted | bareword
deriving DecidableEq, Repr

/-- The kinds of token. -/
inductive Terminal where
  | key
  | flag
  | openBracket
  | closeBracket
  | comma
  | scalar (form : Scalar)
deriving DecidableEq, Repr

namespace Terminal

/-- All terminals, those that are tried first at the front. -/
def byPriority : List Terminal :=
  [key, flag, scalar .range, scalar .rangeTo, openBracket, closeBracket, comma, scalar .bool,
    scalar .float, scalar .int, scalar .quoted, scalar .bareword]

/-- Every terminal has a place in the order of priority. -/
theorem mem_byPriority (t : Terminal) : t ∈ byPriority := by
  cases t with
  | scalar form => cases form <;> decide
  | _ => decide

/-- The name of a terminal. -/
def name : Terminal → String
  | key => "KEY"
  | flag => "FLAG"
  | openBracket => "_LSQB"
  | closeBracket => "_RSQB"
  | comma => "_COMMA"
  | scalar .range => "RANGE"
  | scalar .rangeTo => "RANGE_TO"
  | scalar .bool => "BOOL"
  | scalar .float => "FLOAT"
  | scalar .int => "INT"
  | scalar .quoted => "QUOTED"
  | scalar .bareword => "BAREWORD"

/-- What a terminal is called in messages. Both forms of range have one description. -/
def description : Terminal → String
  | key => "keyword"
  | flag => "flag"
  | openBracket => "'['"
  | closeBracket => "']'"
  | comma => "','"
  | scalar .range => "range"
  | scalar .rangeTo => "range"
  | scalar .bool => "boolean"
  | scalar .float => "float"
  | scalar .int => "integer"
  | scalar .quoted => "quoted string"
  | scalar .bareword => "bareword"

end Terminal

/-- What may be asked for at a place of a line. -/
inductive Symbol where
  | terminal (t : Terminal)
  | endOfInput
  | named (name : String)
deriving DecidableEq, Repr

namespace Symbol

/-- The name of a symbol. -/
def name : Symbol → String
  | terminal t => t.name
  | endOfInput => "$END"
  | named s => s

/-- What a symbol is called in messages. A name that is no terminal's stands for itself. -/
def description : Symbol → String
  | terminal t => t.description
  | endOfInput => "end of input"
  | named s => s

/-- The symbol with a given name. -/
def ofName (s : String) : Symbol :=
  if s = "$END" then endOfInput
  else match Terminal.byPriority.find? (·.name = s) with
    | some t => terminal t
    | none => named s

/-- A symbol found by name has that name. -/
theorem name_ofName (s : String) : (ofName s).name = s := by
  unfold ofName
  split
  · simp_all [name]
  · split
    · next t h => simpa [name] using List.find?_some h
    · rfl

end Symbol

end CommandLine
