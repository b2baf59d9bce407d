import CommandLine.Item

/-!
# Trees

The structure of a line as a tree of labelled nodes with tokens at its leaves: what is shown when
someone asks how a line was read, and what commands are assembled from. `Tree.ofItems` gives the
tree of a line that was read. Trees can also be made by hand, with any names at their nodes and
with tokens that stand in no line.
-/

namespace CommandLine

/-- The kinds of node in the tree of a line. -/
inductive Rule where
  | command | keyword | flag | value
  | rangeExpr | range | rangeTo | list | bool | float | int | string | inner | bareword
deriving DecidableEq, Repr

namespace Rule

/-- All kinds of node. -/
def all : List Rule :=
  [command, keyword, flag, value, rangeExpr, range, rangeTo, list, bool, float, int, string, inner,
    bareword]

/-- The name of a kind of node. -/
def name : Rule → String
  | command => "command"
  | keyword => "keyword"
  | flag => "flag"
  | value => "value"
  | rangeExpr => "range_expr"
  | range => "range"
  | rangeTo => "range_to"
  | list => "list"
  | bool => "bool"
  | float => "float"
  | int => "int"
  | string => "string"
  | inner => "inner"
  | bareword => "bareword"

/-- The kind of node with a given name. -/
def ofName? (s : String) : Option Rule := all.find? (·.name = s)

/-- Every kind of node is found by its name. -/
theorem ofName?_name (r : Rule) : ofName? r.name = some r := by
  cases r <;> decide

end Rule

/-- What stands at a node: a kind of node, if a reader put it there, or a name given by hand. -/
inductive Label where
  | rule (r : Rule)
  | named (name : String)
deriving DecidableEq, Repr

namespace Label

/-- The name at a node. -/
def name : Label → String
  | rule r => r.name
  | named s => s

/-- The kind of node that a label means, if any. -/
def rule? : Label → Option Rule
  | rule r => some r
  | named s => Rule.ofName? s

/-- A label as messages show it. One that a reader put there is shown as a token. -/
def shown : Label → String
  | rule r => Token.textOf "RULE" r.name
  | named s => Text.quote s

end Label

/-- A tree of labelled nodes with tokens at its leaves. -/
inductive Tree where
  | node (label : Label) (children : List Tree)
  | leaf (token : Token)
  /-- A token made by hand, of which no place is known. -/
  | detached (symbol : Symbol) (text : String)
deriving Repr

namespace Scalar

/-- The kinds of node around a token of this form, from the outside in. -/
def rules : Scalar → List Rule
  | range => [.rangeExpr, .range]
  | rangeTo => [.rangeExpr, .rangeTo]
  | bool => [.bool]
  | float => [.float]
  | int => [.int]
  | quoted => [.string, .inner]
  | bareword => [.string, .bareword]

end Scalar

namespace Tree

/-- The text of a tree that is a token. -/
def text? : Tree → Option String
  | node _ _ => none
  | leaf token => some token.text
  | detached _ text => some text

/-- A tree with single nodes put around it, the first one outermost. -/
def wrap (rules : List Rule) (t : Tree) : Tree := rules.foldr (fun r t => node (.rule r) [t]) t

mutual

/-- The tree of a value. -/
def ofPhrase : Phrase → Tree
  | .scalar form token => wrap (.value :: form.rules) (leaf token)
  | .list elements => wrap [.value] (node (.rule .list) (ofPhrases elements))

/-- The trees of some values. -/
def ofPhrases : List Phrase → List Tree
  | [] => []
  | p :: ps => ofPhrase p :: ofPhrases ps

end

theorem ofPhrases_eq_map (ps : List Phrase) : ofPhrases ps = ps.map ofPhrase := by
  induction ps with
  | nil => rfl
  | cons p ps ih => rw [ofPhrases, ih, List.map_cons]

/-- The tree of an item. -/
def ofItem : Item → Tree
  | .keyword key value => node (.rule .keyword) [leaf key, ofPhrase value]
  | .flag token => wrap [.flag] (leaf token)
  | .value phrase => ofPhrase phrase

/-- The tree of a line. -/
def ofItems (items : List Item) : Tree := node (.rule .command) (items.map ofItem)

/-! ## Layout -/

/-- Two spaces for each level. -/
def indent (level : Nat) : String := String.ofList (List.replicate (2 * level) ' ')

mutual

/-- A tree in lines, children one level below their parent. A token that is an only child stands
on the line of its parent, behind a tab. -/
def prettyAt (level : Nat) : Tree → String
  | leaf token => indent level ++ token.text ++ "\n"
  | detached _ text => indent level ++ text ++ "\n"
  | node label [leaf token] => indent level ++ label.name ++ "\t" ++ token.text ++ "\n"
  | node label [detached _ text] => indent level ++ label.name ++ "\t" ++ text ++ "\n"
  | node label children => indent level ++ label.name ++ "\n" ++ prettyAll (level + 1) children

/-- Some trees at one level, one after the other. -/
def prettyAll (level : Nat) : List Tree → String
  | [] => ""
  | t :: ts => prettyAt level t ++ prettyAll level ts

end

/-- A tree in lines. -/
def pretty (t : Tree) : String := t.prettyAt 0

end Tree

end CommandLine
