/-!
# Drafts

A random line before it is written down: what its items are, and which words they are made of.
-/

namespace CommandLine.Fuzz

/-- A value before it is written down. -/
inductive Draft where
  | word (cs : List Char)
  | list (items : List Draft)
deriving Repr

/-- A part of a line before it is written down. -/
inductive DraftItem where
  /-- A name, what stands between its colon and the argument, and the argument. -/
  | keyword (name gap : List Char) (argument : Draft)
  | flag (name : List Char)
  | value (draft : Draft)
deriving Repr

/-- Texts with a separator between them. -/
def joined (separator : List Char) (parts : List (List Char)) : List Char :=
  separator.intercalate parts

namespace Draft

mutual

/-- A value as it is written. -/
def written : Draft → List Char
  | word cs => cs
  | list items => '[' :: joined [',', ' '] (writtenAll items) ++ [']']

/-- Some values, each as it is written. -/
def writtenAll : List Draft → List (List Char)
  | [] => []
  | d :: ds => written d :: writtenAll ds

end

end Draft

namespace DraftItem

/-- A part of a line as it is written. -/
def written : DraftItem → List Char
  | keyword name gap argument => name ++ ':' :: gap ++ argument.written
  | flag name => '-' :: name
  | value draft => draft.written

/-- A line as it is written: its items, with spaces between them. -/
def lineOf (items : List DraftItem) : List Char := joined [' '] (items.map written)

end DraftItem

end CommandLine.Fuzz
