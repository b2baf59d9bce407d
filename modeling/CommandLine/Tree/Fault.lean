import CommandLine.Numeral.Integer
import CommandLine.ParseError
import CommandLine.Tree

/-!
# Faults of trees

Why nothing is made of a tree. The tree of a line that was read has only numbers that are too large
or too long; all other faults need a tree that was made by hand.
-/

namespace CommandLine

/-- The wording for parts of which there are more or fewer than expected. -/
def countMessage (expected count : Nat) : String :=
  if count < expected then
    "not enough values to unpack (expected " ++ toString expected ++ ", got " ++
      toString count ++ ")"
  else "too many values to unpack (expected " ++ toString expected ++ ")"

namespace Rule

/-- What the one child of a node of this kind is called. -/
def childName : Rule → String
  | value => "inner"
  | rangeExpr => "inner"
  | string => "text"
  | _ => "token"

/-- The wording for something of another kind in the place of the text that a node of this kind
needs. -/
def valueMessage (kind : String) : Rule → String
  | range => "'" ++ kind ++ "' object has no attribute 'split'"
  | bool => "'" ++ kind ++ "' object has no attribute 'lower'"
  | int => "'" ++ kind ++ "' object has no attribute 'lstrip'"
  | float => "float() argument must be a string or a real number, not '" ++ kind ++ "'"
  | _ => "'" ++ kind ++ "' object is not subscriptable"

end Rule

/-- Why the conversion of a node fails when its children are converted. -/
inductive NodeFault where
  /-- An integer that does not fit in 64 bits. -/
  | tooLarge (error : ParseError)
  /-- Such an integer in a token of which no place is known. -/
  | tooLargeDetached
  /-- Such an integer in a text that is no token. -/
  | tooLargeNowhere
  | notAnInteger (shown : String)
  | tooManyDigits (count : Nat)
  | notANumber (shown : String)
  /-- Bounds of a range, of which there have to be two. -/
  | boundCount (count : Nat)
  /-- Children of a node that has to have one. -/
  | childCount (rule : Rule) (count : Nat)
  /-- A value of some kind in the place of a text. -/
  | valueForText (rule : Rule) (kind : String)
  /-- A helper that fails, or something that a helper made in the place of a text. -/
  | foreign (message : String)
deriving DecidableEq, Repr

/-- How much is shown of a text that is no integer. -/
def shownLimit : Nat := 200

/-- The wording of a fault in a node. -/
def NodeFault.message : NodeFault → String
  | tooLarge error => error.message
  | tooLargeDetached => "unsupported operand type(s) for -: 'NoneType' and 'int'"
  | tooLargeNowhere => "'str' object has no attribute 'start_pos'"
  | notAnInteger shown =>
    "invalid literal for int() with base 10: " ++ String.ofList (shown.toList.take shownLimit)
  | tooManyDigits count =>
    "Exceeds the limit (" ++ toString Numeral.digitLimit ++
      " digits) for integer string conversion: value has " ++ toString count ++
      " digits; use sys.set_int_max_str_digits() to increase the limit"
  | notANumber shown => "could not convert string to float: " ++ shown
  | boundCount count => countMessage 2 count
  | childCount rule 0 =>
    "ValueSerializer." ++ rule.name ++ "() missing 1 required positional argument: '" ++
      rule.childName ++ "'"
  | childCount rule count =>
    "ValueSerializer." ++ rule.name ++ "() takes 2 positional arguments but " ++
      toString (count + 1) ++ " were given"
  | valueForText rule kind => rule.valueMessage kind
  | foreign message => message

/-- Why a tree is not converted. -/
inductive Obstacle where
  /-- A label that nothing is converted by. -/
  | noConversion (label : Label)
  /-- A node whose conversion fails. -/
  | atNode (label : Label) (fault : NodeFault)
deriving DecidableEq, Repr

/-- The wording for a label that nothing is converted by. -/
def noConversionMessage (label : Label) : String := "No conversion for rule " ++ label.shown

/-- The wording of an obstacle, where no line is at hand that could be blamed. -/
def Obstacle.message : Obstacle → String
  | noConversion label => noConversionMessage label
  | atNode label fault =>
    "Error trying to process rule \"" ++ label.name ++ "\":\n\n" ++ fault.message

/-- Why no command is made of a tree. -/
inductive TreeFault where
  /-- A label that nothing is converted by. -/
  | noConversion (label : Label)
  /-- A value that cannot be converted. -/
  | unconvertible (label : Label) (fault : NodeFault)
  /-- A label that no item of a line has. -/
  | unexpectedItem (label : Label)
  /-- Parts of a keyword or a flag, more or fewer than it has. -/
  | partCount (expected count : Nat)
  /-- A node in the place of a name's token. -/
  | nodeForName
  /-- A token in the place of an item. -/
  | tokenForItem
  /-- A token in the place of the tree of a line. -/
  | tokenForLine
deriving DecidableEq, Repr

/-- The wording of a fault in a tree. -/
def TreeFault.message : TreeFault → String
  | noConversion label => noConversionMessage label
  | unconvertible label fault => "Failed to convert " ++ label.shown ++ ": " ++ fault.message
  | unexpectedItem label => "Unexpected top-level rule " ++ label.shown
  | partCount expected count => countMessage expected count
  | nodeForName => "'Tree' object is not subscriptable"
  | tokenForItem => "'Token' object has no attribute 'data'"
  | tokenForLine => "'Token' object has no attribute 'children'"

/-- Why a line or a tree gives no command: the line is at fault, or the tree is. -/
inductive Failure where
  | line (error : ParseError)
  | tree (fault : TreeFault)
deriving DecidableEq, Repr

/-- The wording of a failure. -/
def Failure.message : Failure → String
  | line error => error.message
  | tree fault => fault.message

/-- The failure of a command with an obstacle in one of its values. The line is blamed for integers
that are too large, and for nothing else. -/
def Obstacle.toFailure : Obstacle → Failure
  | noConversion label => .tree (.noConversion label)
  | atNode _ (.tooLarge error) => .line error
  | atNode label fault => .tree (.unconvertible label fault)

end CommandLine
