import CommandLine.Bindings
import CommandLine.Plain

/-!
# Commands

A command is a list of positional values and an ordered table of named ones.
-/

namespace CommandLine

/-- What a line says: values by place and values by name. -/
structure Command where
  arguments : List Value
  bindings : Bindings Value

namespace Command

/-- The command that says nothing. -/
def empty : Command := ⟨[], .empty⟩

/-- One thing that a line says: a value by place, or a value by name. -/
inductive Entry (α : Type) where
  | argument (v : α)
  | binding (name : String) (v : α)

namespace Entry

variable {α β : Type}

/-- The value of an entry that has no name. -/
def argument? : Entry α → Option α
  | argument v => some v
  | binding _ _ => none

/-- Name and value of an entry that has a name. -/
def binding? : Entry α → Option (String × α)
  | argument _ => none
  | binding name v => some (name, v)

/-- The same entry with another value. -/
def map (f : α → β) : Entry α → Entry β
  | argument v => argument (f v)
  | binding name v => binding name (f v)

theorem filterMap_argument?_map (f : α → β) (entries : List (Entry α)) :
    (entries.map (map f)).filterMap argument? = (entries.filterMap argument?).map f := by
  rw [List.filterMap_map, List.map_filterMap]
  congr 1
  funext entry
  cases entry <;> rfl

theorem filterMap_binding?_map (f : α → β) (entries : List (Entry α)) :
    (entries.map (map f)).filterMap binding? =
      (entries.filterMap binding?).map fun e => (e.1, f e.2) := by
  rw [List.filterMap_map, List.map_filterMap]
  congr 1
  funext entry
  cases entry <;> rfl

end Entry

/-- The command that says some things one after the other. -/
def ofEntries (entries : List (Entry Value)) : Command :=
  ⟨entries.filterMap Entry.argument?, Bindings.ofList (entries.filterMap Entry.binding?)⟩

/-- Whether two commands are equal: the same values by place, and by name in any order. -/
def sameAs (c d : Command) : Bool :=
  Value.sameAll c.arguments d.arguments && c.bindings.agree Value.sameAs d.bindings

/-- How many different commands there are in a list. -/
def countDistinct : List Command → Nat
  | [] => 0
  | c :: cs => if cs.any c.sameAs then countDistinct cs else countDistinct cs + 1

/-- The lines of a listing of a command: its values by place, then by name. -/
def listing (c : Command) : List String :=
  "Arguments:" :: c.arguments.map (fun v => "    " ++ v.display) ++
    "Keyword Arguments:" :: c.bindings.entries.map fun e => "    " ++ e.1 ++ ": " ++ e.2.display

/-- A listing of a command. -/
def text (c : Command) : String := "\n".intercalate c.listing

/-- The data that a command stands for. -/
def toPlain (c : Command) : List Plain × Bindings Plain :=
  (c.arguments.map Value.toPlain, c.bindings.map Value.toPlain)

end Command

end CommandLine
