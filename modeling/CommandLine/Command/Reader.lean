import CommandLine.Command
import CommandLine.Item.Reader
import CommandLine.Tree.Value

/-!
# Reading commands

A line is read to its tree, and the tree is assembled to a command, item by item: a value goes
behind the positional values, a keyword binds its name to its value, a flag binds its name to true.
All of the line is read before the first value is converted.
-/

namespace CommandLine

theorem exists_ok_of_isOk {ε α : Type} {result : Except ε α} (h : result.isOk = true) :
    ∃ x, result = .ok x := by
  cases result with
  | error e => cases h
  | ok x => exact ⟨x, rfl⟩

namespace Tree

/-- The tree of a line. -/
def parse (text : String) : Except ParseError Tree :=
  match Item.ofText text.toList with
  | .ok items => .ok (ofItems items)
  | .error rejection => .error (rejection.toError text)

/-- A line has a tree exactly if it has items, and the tree is theirs. -/
theorem parse_eq_ok_iff {text : String} {tree : Tree} :
    parse text = .ok tree ↔
      ∃ items, Item.ofText text.toList = .ok items ∧ ofItems items = tree := by
  unfold parse
  cases Item.ofText text.toList with
  | ok items => simp
  | error rejection => simp

end Tree

namespace Command

/-- The name that the text of a keyword's token gives: all but its last character, the colon. -/
def keyName (text : String) : String := String.ofList text.toList.dropLast

/-- The name that the text of a flag's token gives: all but its first character, the dash. -/
def flagName (text : String) : String := String.ofList (text.toList.drop 1)

/-! ## What items say -/

/-- What a tree within a command is converted to. -/
def pieceOf (helpers : Tree.Helpers) (text : String) (t : Tree) : Except Failure Tree.Piece :=
  (t.convert helpers text).mapError Obstacle.toFailure

/-- What binds a piece to the name that a tree stands for. -/
def bindingOf (nameOf : String → String) (piece : Tree.Piece) (t : Tree) :
    Except Failure (Entry Tree.Piece) :=
  match t.text? with
  | some text => .ok (.binding (nameOf text) piece)
  | none => .error (.tree .nodeForName)

/-- What a keyword with given parts says. Its value is converted before its name is looked at. -/
def keywordOf (helpers : Tree.Helpers) (text : String) :
    List Tree → Except Failure (Entry Tree.Piece)
  | [key, value] =>
    match pieceOf helpers text value with
    | .error failure => .error failure
    | .ok piece => bindingOf keyName piece key
  | parts => .error (.tree (.partCount 2 parts.length))

/-- What a flag with given parts says. -/
def flagOf : List Tree → Except Failure (Entry Tree.Piece)
  | [token] => bindingOf flagName (.value (.bool true)) token
  | parts => .error (.tree (.partCount 1 parts.length))

/-- What an item of a tree says. -/
def entryOf (helpers : Tree.Helpers) (text : String) : Tree → Except Failure (Entry Tree.Piece)
  | .node label parts =>
    match label.rule? with
    | some .keyword => keywordOf helpers text parts
    | some .flag => flagOf parts
    | some .value => (pieceOf helpers text (.node label parts)).map .argument
    | _ => .error (.tree (.unexpectedItem label))
  | _ => .error (.tree .tokenForItem)

/-- What some items say, up to the first failure. -/
def entriesOf (helpers : Tree.Helpers) (text : String) :
    List Tree → Except Failure (List (Entry Tree.Piece))
  | [] => .ok []
  | item :: rest =>
    match entryOf helpers text item with
    | .error failure => .error failure
    | .ok entry => (entriesOf helpers text rest).map (entry :: ·)

/-! ## What trees say -/

/-- What is assembled from a tree: pieces by place and pieces by name. -/
structure Assembly where
  arguments : List Tree.Piece
  bindings : Bindings Tree.Piece

namespace Assembly

/-- The assembly of some entries one after the other. -/
def ofEntries (entries : List (Entry Tree.Piece)) : Assembly :=
  ⟨entries.filterMap Entry.argument?, Bindings.ofList (entries.filterMap Entry.binding?)⟩

/-- The command that an assembly of values is. -/
def toCommand (a : Assembly) : Command :=
  ⟨a.arguments.map Tree.Piece.toValue, a.bindings.map Tree.Piece.toValue⟩

/-- An assembly of values is the command with these values. -/
theorem toCommand_ofEntries (entries : List (Entry Value)) :
    (ofEntries (entries.map (Entry.map .value))).toCommand = Command.ofEntries entries := by
  have back (v : Value) : (Tree.Piece.value v).toValue = v := by rw [Tree.Piece.toValue]
  simp only [toCommand, ofEntries, Command.ofEntries, Entry.filterMap_argument?_map,
    Entry.filterMap_binding?_map, Bindings.map_ofList, List.map_map, Function.comp_def, back,
    List.map_id']

end Assembly

/-- What the children of a tree are assembled to. The text is the line that the tree was read from,
for errors. -/
def assemble (helpers : Tree.Helpers) (text : String) : Tree → Except Failure Assembly
  | .node _ items => (entriesOf helpers text items).map Assembly.ofEntries
  | _ => .error (.tree .tokenForLine)

/-- The command that the children of a tree make up, if the tree is that of a line, for what is
assembled from such a tree are values. -/
def ofTree (text : String) (t : Tree) : Except Failure Command :=
  (assemble .standard text t).map Assembly.toCommand

/-- The command that a line says. The empty line is not looked at further. -/
def parse (text : String) : Except Failure Command :=
  if text.isEmpty then .ok empty
  else match Tree.parse text with
    | .error error => .error (.line error)
    | .ok tree => ofTree text tree

end Command

end CommandLine
