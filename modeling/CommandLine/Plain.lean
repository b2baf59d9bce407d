import CommandLine.Value

/-!
# Plain data

The data of programs that use commands: texts, truth values, numbers, lists, tuples and ranges,
and a few things that no command value stands for. `Value.toPlain` takes a value apart into plain
data; `Plain.coerce` makes a value of plain data, where it can.
-/

namespace CommandLine

/-- Data outside the closed world of command values. Of a table its entries and of a set its members
are given in the order in which they are kept. -/
inductive Plain where
  | text (s : String)
  | bool (b : Bool)
  | int (n : Int)
  | float (x : Double)
  | list (items : List Plain)
  | tuple (items : List Plain)
  | range (first beyond step : Int)
  | absent
  | table (entries : List (Plain × Plain))
  | set (members : List Plain)
  | bytes (content : List UInt8)
  | value (v : Value)
deriving Repr

namespace Plain

/-- The name of the kind of some data. -/
def kind : Plain → String
  | text _ => "str"
  | bool _ => "bool"
  | int _ => "int"
  | float _ => "float"
  | list _ => "list"
  | tuple _ => "tuple"
  | range _ _ _ => "range"
  | absent => "NoneType"
  | table _ => "dict"
  | set _ => "set"
  | bytes _ => "bytes"
  | value v => v.kind

/-- A range as it is shown. A step of one is left out. -/
def rangeText (first beyond step : Int) : String :=
  "range(" ++ Numeral.decimal first ++ ", " ++ Numeral.decimal beyond ++
    (if step = 1 then "" else ", " ++ Numeral.decimal step) ++ ")"

mutual

/-- Data on one line. -/
def display : Plain → String
  | text s => Text.quote s
  | bool b => Value.boolText b
  | int n => Numeral.decimal n
  | float x => x.text
  | list items => "[" ++ ", ".intercalate (displayAll items) ++ "]"
  | tuple items => Value.tupleText (displayAll items)
  | range first beyond step => rangeText first beyond step
  | absent => "None"
  | table entries => "\x7b" ++ ", ".intercalate (displayEntries entries) ++ "\x7d"
  | set [] => "set()"
  | set members => "\x7b" ++ ", ".intercalate (displayAll members) ++ "\x7d"
  | bytes content => "b" ++ Text.quoteBytes content
  | value v => v.display

/-- Some data, each on one line. -/
def displayAll : List Plain → List String
  | [] => []
  | x :: xs => display x :: displayAll xs

/-- An entry of a table. -/
def displayEntry : Plain × Plain → String
  | (key, x) => display key ++ ": " ++ display x

/-- Some entries of a table. -/
def displayEntries : List (Plain × Plain) → List String
  | [] => []
  | e :: es => displayEntry e :: displayEntries es

end

/-- Why no value can be made of some data. -/
inductive Fault where
  /-- A range that leaves numbers out. -/
  | steppedRange (first beyond step : Int)
  /-- Such a range with a number that is too long to be shown. -/
  | overlongRange
  /-- Data of a kind that no value stands for. -/
  | unsupported (kind : String)
deriving DecidableEq, Repr

/-- The wording of a fault. -/
def Fault.message : Fault → String
  | steppedRange first beyond step =>
    "Only ranges with step 1 can be converted, got " ++ rangeText first beyond step
  | overlongRange =>
    "Exceeds the limit (" ++ toString Numeral.digitLimit ++ " digits) for integer string " ++
      "conversion; use sys.set_int_max_str_digits() to increase the limit"
  | unsupported kind => "Cannot convert " ++ kind ++ " to a command value"

/-- Whether a fault is told as one of the data's type. A range that can not be shown is told as the
fault of a number. -/
def Fault.isOfType : Fault → Bool
  | steppedRange _ _ _ => true
  | overlongRange => false
  | unsupported _ => true

/-- The fault of a range that leaves numbers out. It is to be shown, if its numbers can be. -/
def rangeFault (first beyond step : Int) : Fault :=
  if [first, beyond, step].all Numeral.isWritable then .steppedRange first beyond step
  else .overlongRange

mutual

/-- The value that some data stands for. Values stand for themselves; the first fault from the
left decides. -/
def coerce : Plain → Except Fault Value
  | value v => .ok v
  | text s => .ok (.string s)
  | bool b => .ok (.bool b)
  | int n => .ok (.int n)
  | float x => .ok (.float x)
  | list items => (coerceAll items).map .list
  | tuple items => (coerceAll items).map .list
  | range first beyond step =>
    if step = 1 then .ok (.range first beyond) else .error (rangeFault first beyond step)
  | absent => .error (.unsupported (kind absent))
  | table entries => .error (.unsupported (kind (table entries)))
  | set members => .error (.unsupported (kind (set members)))
  | bytes content => .error (.unsupported (kind (bytes content)))

/-- The values that some data stand for, from left to right. -/
def coerceAll : List Plain → Except Fault (List Value)
  | [] => .ok []
  | x :: xs =>
    match coerce x with
    | .error fault => .error fault
    | .ok v => (coerceAll xs).map (v :: ·)

end

end Plain

namespace Value

mutual

/-- The data that a value stands for. -/
def toPlain : Value → Plain
  | string s => .text s
  | bool b => .bool b
  | int n => .int n
  | float x => .float x
  | list items => .list (toPlainAll items)
  | range first beyond => .range first beyond 1

/-- The data that some values stand for. -/
def toPlainAll : List Value → List Plain
  | [] => []
  | x :: xs => toPlain x :: toPlainAll xs

end

end Value

end CommandLine
