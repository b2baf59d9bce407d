import CommandLine.Numeral.DoubleText
import CommandLine.Text.Quoted

/-!
# Values

What the arguments of a command can be, how values are compared, and how they are shown. Values nest
without a limit, and integers of any length can be shown: at what depth a machine runs out of stack
is not part of the library, and how long a number may be that is shown only where the kind of an
error depends on it (`Plain.rangeFault`).
-/

namespace CommandLine

/-- A value on a command line. A range holds its bounds as they are given, the upper one excluded;
it may run backwards. -/
inductive Value where
  | string (text : String)
  | bool (b : Bool)
  | int (n : Int)
  | float (x : Double)
  | list (items : List Value)
  | range (first beyond : Int)
deriving Repr

namespace Value

/-! ## Comparison -/

mutual

/-- Whether two values are equal. Values of different kinds never are; doubles are compared as
numbers. -/
def sameAs : Value → Value → Bool
  | string s, string t => s == t
  | bool a, bool b => a == b
  | int m, int n => m == n
  | float x, float y => x.sameAs y
  | list xs, list ys => sameAll xs ys
  | range a b, range c d => a == c && b == d
  | _, _ => false

/-- Whether two lists of values are equal, item by item. -/
def sameAll : List Value → List Value → Bool
  | [], [] => true
  | x :: xs, y :: ys => sameAs x y && sameAll xs ys
  | _, _ => false

end

/-! ## Display -/

/-- The name of a value's kind. -/
def kind : Value → String
  | string _ => "StringValue"
  | bool _ => "BoolValue"
  | int _ => "IntValue"
  | float _ => "FloatValue"
  | list _ => "ListValue"
  | range _ _ => "RangeValue"

/-- A truth value as it is shown. -/
def boolText (b : Bool) : String := if b then "True" else "False"

/-- Parts between round brackets, separated by commas. A single part has a comma behind it. -/
def tupleText : List String → String
  | [] => "()"
  | [part] => "(" ++ part ++ ",)"
  | parts => "(" ++ ", ".intercalate parts ++ ")"

/-- A string as it is shown, by how its content is. -/
def stringText (content : String) : String := "StringValue(value=" ++ content ++ ")"

/-- A list as it is shown, by how its items are. -/
def listText (items : List String) : String := "ListValue(items=" ++ tupleText items ++ ")"

mutual

/-- A value on one line: its kind and what it holds. -/
def display : Value → String
  | string s => stringText (Text.quote s)
  | bool b => "BoolValue(value=" ++ boolText b ++ ")"
  | int n => "IntValue(value=" ++ Numeral.decimal n ++ ")"
  | float x => "FloatValue(value=" ++ x.text ++ ")"
  | list items => listText (displayAll items)
  | range first beyond =>
    "RangeValue(start=" ++ Numeral.decimal first ++ ", end=" ++ Numeral.decimal beyond ++ ")"

/-- Some values, each on one line. -/
def displayAll : List Value → List String
  | [] => []
  | x :: xs => display x :: displayAll xs

end

end Value

end CommandLine
