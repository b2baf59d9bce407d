import CommandLine.Tree.Fault
import CommandLine.Value

/-!
# Pieces

What the nodes and tokens of a tree are converted to on the way to values. A piece can be shown
like a value, and it may be one. All that the tree of a line gives are values in the end.
-/

namespace CommandLine

namespace Tree

/-- Something that is neither a value nor a text: how it is shown, and what is said when a node of
some kind needs a text and gets this. -/
structure Foreign where
  shown : String
  complaint : Rule → String

/-- What a tree is converted to. All that a line gives are values, and on the way to them texts and
tokens; the other forms come from trees that were made by hand. -/
inductive Piece where
  | value (v : Value)
  /-- A text that a value may be made of. -/
  | text (s : String)
  /-- A token as it is. -/
  | token (t : Token)
  /-- A token of which no place is known, as it is. -/
  | detached (symbol : Symbol) (text : String)
  /-- A string with something in it that is no text, which is shown as what it is. -/
  | string (content : Piece)
  /-- A list of which some items are no plain values. -/
  | list (items : List Piece)
  | foreign (thing : Foreign)

/-- Where a text stands that is read: at an offset of the line, in a token of which no place is
known, or nowhere. -/
inductive Origin where
  | offset (n : Nat)
  | detached
  | nowhere

/-- A text, the way it is shown, and where it stands. -/
structure Written where
  text : String
  shown : String
  origin : Origin

namespace Piece

/-- The text that a piece is, or its fault in the place of the text that a node of some kind
needs. -/
def written (rule : Rule) : Piece → Except NodeFault Written
  | text s => .ok ⟨s, Text.quote s, .nowhere⟩
  | token t => .ok ⟨t.text, t.shown, .offset t.start.offset⟩
  | detached symbol s => .ok ⟨s, Token.textOf symbol.name s, .detached⟩
  | value v => .error (.valueForText rule v.kind)
  | string _ => .error (.valueForText rule (Value.string "").kind)
  | list _ => .error (.valueForText rule (Value.list []).kind)
  | foreign thing => .error (.foreign (thing.complaint rule))

mutual

/-- A piece on one line. -/
def display : Piece → String
  | value v => v.display
  | text s => Text.quote s
  | token t => t.shown
  | detached symbol s => Token.textOf symbol.name s
  | string content => Value.stringText (display content)
  | list items => Value.listText (displayAll items)
  | foreign thing => thing.shown

/-- Some pieces, each on one line. -/
def displayAll : List Piece → List String
  | [] => []
  | piece :: rest => display piece :: displayAll rest

end

/-- The text of a piece: its own, or else what it is shown as. -/
def plainText : Piece → String
  | text s => s
  | token t => t.text
  | detached _ s => s
  | piece => piece.display

/-- The values among which nothing else is. -/
def plainValues? : List Piece → Option (List Value)
  | [] => some []
  | value v :: rest => (plainValues? rest).map (v :: ·)
  | _ :: _ => none

/-- The string with a given content. -/
def ofContent : Piece → Piece
  | text s => value (.string s)
  | content => string content

/-- The list of some items. -/
def ofItems (items : List Piece) : Piece :=
  match plainValues? items with
  | some values => value (.list values)
  | none => list items

mutual

/-- The value that a piece is. A string holds the text of its content. What is no value, as nothing
from the tree of a line is, counts as the string of its text. -/
def toValue : Piece → Value
  | value v => v
  | string content => .string content.plainText
  | list items => .list (toValues items)
  | piece => .string piece.plainText

/-- The values that some pieces are. -/
def toValues : List Piece → List Value
  | [] => []
  | piece :: rest => toValue piece :: toValues rest

end

end Piece

/-- A list outside the world of values, as it is shown and complained of. -/
def Foreign.ofPieces (pieces : List Piece) : Foreign where
  shown := "[" ++ ", ".intercalate (Piece.displayAll pieces) ++ "]"
  complaint rule :=
    match rule with
    | .rangeTo => Rule.valueMessage "list" .int
    | .inner => "'list' object has no attribute 'replace'"
    | rule => rule.valueMessage "list"

end Tree

end CommandLine
