import CommandLine.Command

/-!
# Checking results

What a reader of lines returns is checked like data from outside: it has to be a command whose
arguments are values and whose names are not empty.
-/

namespace CommandLine

/-- Something that should be a command. Its parts may be any data. -/
inductive Candidate where
  | command (arguments : List Plain) (bindings : Bindings Plain)
  | other (data : Plain)

namespace Candidate

/-- A command as something to be checked. -/
def ofCommand (c : Command) : Candidate := command (c.arguments.map .value) (c.bindings.map .value)

/-- What is wrong with something that should be a command. -/
inductive Violation where
  | notACommand (kind : String)
  | argumentNotAValue (data : Plain)
  | badName (name : String)
  | bindingNotAValue (name : String) (data : Plain)

/-- The wording of a violation. -/
def Violation.message : Violation → String
  | notACommand kind => "parse returned " ++ kind
  | argumentNotAValue data => "positional " ++ data.display ++ " is not a value"
  | badName name => "bad keyword name " ++ Text.quote name
  | bindingNotAValue name data => "keyword " ++ name ++ " maps to " ++ data.display

/-- Whether data is a value. -/
def isValue : Plain → Bool
  | .value _ => true
  | _ => false

/-- What is wrong with a named value. The name is looked at first. -/
def bindingViolation? (name : String) (data : Plain) : Option Violation :=
  if name.isEmpty then some (.badName name)
  else if isValue data then none
  else some (.bindingNotAValue name data)

/-- The first thing that is wrong, arguments before names. -/
def violation? : Candidate → Option Violation
  | other data => some (.notACommand data.kind)
  | command arguments bindings =>
    match arguments.find? (!isValue ·) with
    | some data => some (.argumentNotAValue data)
    | none => bindings.entries.findSome? fun e => bindingViolation? e.1 e.2

end Candidate

end CommandLine
