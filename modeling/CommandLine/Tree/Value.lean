import CommandLine.Numeral.DoubleReader
import CommandLine.Text.Escaped
import CommandLine.Tree.Piece

/-!
# Values of trees

A tree of a value is converted from its leaves up: children before their parent, from left to
right, and the first obstacle ends the conversion. Integers have to fit in 64 bits.

A converter is asked for what has the name of a node. Besides the kinds of node it has helpers of
its own, and a node made by hand may have the name of one of them; what they do is a parameter,
which does not matter for the tree of a line.
-/

namespace CommandLine

namespace Tree

/-! ## Texts -/

/-- The least integer of 64 bits. -/
def int64Min : Int := -9223372036854775808

/-- The greatest integer of 64 bits. -/
def int64Max : Int := 9223372036854775807

/-- How many digits without leading zeros the greatest integer of 64 bits has. -/
def int64Digits : Nat := 19

/-- The digits that make out the size of an integer. -/
def significant (literal : List Char) : List Char :=
  (literal.dropWhile (· == '-')).dropWhile (· == '0')

/-- The fault of an integer that does not fit in 64 bits. -/
def tooLarge (line : String) (origin : Origin) (literal : List Char) : NodeFault :=
  match origin with
  | .offset offset => .tooLarge ⟨line, offset, [], .doesNotFit (String.ofList literal)⟩
  | .detached => .tooLargeDetached
  | .nowhere => .tooLargeNowhere

/-- The integer of 64 bits that a literal stands for. Too many significant digits are told without
reading the number. -/
def int64 (line : String) (origin : Origin) (shown : String) (literal : List Char) :
    Except NodeFault Int :=
  if int64Digits < (significant literal).length then .error (tooLarge line origin literal)
  else match Numeral.readInteger literal with
    | .error .malformed => .error (.notAnInteger shown)
    | .error (.tooManyDigits n) => .error (.tooManyDigits n)
    | .ok n =>
      if int64Min ≤ n ∧ n ≤ int64Max then .ok n else .error (tooLarge line origin literal)

/-- A bound of a range. -/
def bound (line : String) (origin : Origin) (literal : List Char) : Except NodeFault Int :=
  int64 line origin (Text.quote (String.ofList literal)) literal

/-- The pieces between pairs of dots. What was passed of the first piece is kept newest first. -/
def splitDots (passed : List Char) : List Char → List (List Char)
  | '.' :: '.' :: cs => passed.reverse :: splitDots [] cs
  | c :: cs => splitDots (c :: passed) cs
  | [] => [passed.reverse]

/-- The value of a text with two bounds. -/
def rangeValue (line : String) (w : Written) : Except NodeFault Value :=
  match splitDots [] w.text.toList with
  | [low, high] =>
    match bound line w.origin low with
    | .error fault => .error fault
    | .ok first => (bound line w.origin high).map (.range first)
  | pieces => .error (.boundCount pieces.length)

/-- The value of a text that is read as true or false. -/
def boolValue (text : String) : Value :=
  .bool (text.toList.map Char.toLower == ['t', 'r', 'u', 'e'])

/-- The value of a text that is read as a double. -/
def floatValue (w : Written) : Except NodeFault Value :=
  match Double.read? w.text.toList with
  | some x => .ok (.float x)
  | none => .error (.notANumber w.shown)

/-! ## Nodes -/

/-- The conversion of a node with one child that is a text. -/
def convertText (line : String) (rule : Rule) (w : Written) : Except NodeFault Piece :=
  match rule with
  | .range => (rangeValue line w).map .value
  | .rangeTo => (bound line w.origin (w.text.toList.drop 2)).map (.value ∘ .range 0)
  | .bool => .ok (.value (boolValue w.text))
  | .float => (floatValue w).map .value
  | .int => (int64 line w.origin w.shown w.text.toList).map (.value ∘ .int)
  | .inner => .ok (.text (String.ofList (Text.decodeString w.text.toList)))
  | _ => .ok (.text w.text)

/-- The conversion of a node with one child that is converted. -/
def convertOne (line : String) (rule : Rule) (piece : Piece) : Except NodeFault Piece :=
  match rule with
  | .value => .ok piece
  | .rangeExpr => .ok piece
  | .string => .ok (.ofContent piece)
  | .bareword => .ok (.text piece.plainText)
  | rule => (piece.written rule).bind (convertText line rule)

/-- The conversion of a node whose children are converted. -/
def convertNode (line : String) (rule : Rule) (pieces : List Piece) : Except NodeFault Piece :=
  match rule, pieces with
  | .list, pieces => .ok (.ofItems pieces)
  | rule, [piece] => convertOne line rule piece
  | rule, pieces => .error (.childCount rule pieces.length)

/-- The kind of node that something with a label is converted as. Lines and their items have no
values, and neither has an unknown label. -/
def conversion? (label : Label) : Option Rule :=
  match label.rule? with
  | some .command => none
  | some .keyword => none
  | some .flag => none
  | found => found

/-- The helpers of a converter, by their names: what each makes of a node, whose children have been
converted, and of a token. A helper gives something or fails with a message, and leaves the
converter as it was. No terminal has the name of a helper. -/
structure Helpers where
  node? : String → Option (List Piece → Except String Piece)
  token? : String → Option (Piece → Except String Piece)

namespace Helpers

/-- What some helpers say in any case, as they need more than one thing or are no functions. -/
def refusal? : String → Option String
  | "_text" => some "'str' object is not callable"
  | "_int64" => some "ValueSerializer._int64() missing 1 required positional argument: 'token'"
  | "__default__" =>
    some ("ValueSerializer.__default__() missing 2 required positional arguments: " ++
      "'children' and 'meta'")
  | _ => none

/-- The helpers of a converter as far as they are known. The conversion as a whole is one: it passes
on what a node's children were converted to, as a list, and on a token it runs into itself. -/
def standard : Helpers where
  node?
    | "transform" => some fun pieces => .ok (.foreign (.ofPieces pieces))
    | name => (refusal? name).map fun message _ => .error message
  token?
    | "transform" => some fun _ => .error "maximum recursion depth exceeded"
    | name => (refusal? name).map fun message _ => .error message

end Helpers

/-- Lets a helper answer for something with a label. -/
def answer (label : Label) (made : Except String Piece) : Except Obstacle Piece :=
  made.mapError fun message => .atNode label (.foreign message)

/-- The conversion of a token. A token of a terminal is left as it is; one with the name of a kind
of node is converted like such a node around it. -/
def convertToken (helpers : Helpers) (line : String) (symbol : Symbol) (token : Piece) :
    Except Obstacle Piece :=
  match symbol with
  | .named name =>
    match conversion? (.named name) with
    | some rule => (convertNode line rule [token]).mapError (.atNode (.named name))
    | none =>
      match helpers.token? name with
      | some helper => answer (.named name) (helper token)
      | none => .ok token
  | _ => .ok token

/-- The conversion of a node with a label, when its children are converted. -/
def convertLabelled (helpers : Helpers) (line : String) (label : Label) (pieces : List Piece) :
    Except Obstacle Piece :=
  match conversion? label with
  | some rule => (convertNode line rule pieces).mapError (.atNode label)
  | none =>
    match helpers.node? label.name with
    | some helper => answer label (helper pieces)
    | none => .error (.noConversion label)

mutual

/-- Converts a tree. The line is the one that the tree was read from, for errors. -/
def convert (helpers : Helpers) (line : String) : Tree → Except Obstacle Piece
  | leaf token => convertToken helpers line token.symbol (.token token)
  | detached symbol text => convertToken helpers line symbol (.detached symbol text)
  | node label children =>
    match convertAll helpers line children with
    | .error obstacle => .error obstacle
    | .ok pieces => convertLabelled helpers line label pieces

/-- Converts some trees from left to right. -/
def convertAll (helpers : Helpers) (line : String) : List Tree → Except Obstacle (List Piece)
  | [] => .ok []
  | t :: ts =>
    match convert helpers line t with
    | .error obstacle => .error obstacle
    | .ok piece => (convertAll helpers line ts).map (piece :: ·)

end

end Tree

end CommandLine
