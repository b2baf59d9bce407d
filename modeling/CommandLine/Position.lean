/-!
# Positions

A place in a text: how many characters precede it, its line and its column. Only the newline ends
a line. `Position.advance` moves a position over characters that are read; `Position.locate`
computes the place of an offset from the text alone.
-/

namespace CommandLine

/-- A place in a text. Lines and columns are counted from one. -/
structure Position where
  offset : Nat
  line : Nat
  column : Nat
deriving DecidableEq, Repr

namespace Position

/-- The beginning of a text. -/
def start : Position := ⟨0, 1, 1⟩

/-- The place after one character. -/
def step (p : Position) (c : Char) : Position :=
  if c = '\n' then ⟨p.offset + 1, p.line + 1, 1⟩ else ⟨p.offset + 1, p.line, p.column + 1⟩

/-- The place after some characters. -/
def advance (p : Position) (cs : List Char) : Position := cs.foldl step p

@[simp] theorem advance_nil (p : Position) : p.advance [] = p := rfl

@[simp] theorem advance_cons (p : Position) (c : Char) (cs : List Char) :
    p.advance (c :: cs) = (p.step c).advance cs := rfl

theorem advance_append (p : Position) (as bs : List Char) :
    p.advance (as ++ bs) = (p.advance as).advance bs := by
  simp [advance, List.foldl_append]

/-- How many characters lie between the last newline before an offset and that offset, or the end
of the text if the offset is beyond it. -/
def sinceNewline (cs : List Char) (offset : Nat) : Nat :=
  ((cs.take offset).reverse.takeWhile (· != '\n')).length

/-- The offset at which the line of an offset begins. -/
def lineStart (cs : List Char) (offset : Nat) : Nat :=
  (cs.take offset).length - sinceNewline cs offset

/-- The offset at which the line of an offset ends: the next newline, or the end of the text. -/
def lineEnd (cs : List Char) (offset : Nat) : Nat :=
  (cs.take offset).length + ((cs.drop offset).takeWhile (· != '\n')).length

/-- The place of an offset in a text. An offset beyond the end counts on in the last line. -/
def locate (cs : List Char) (offset : Nat) : Position :=
  ⟨offset, (cs.take offset).count '\n' + 1, offset - lineStart cs offset + 1⟩

/-- How many bytes of UTF-8 the characters before an offset take. -/
def bytesBefore (cs : List Char) (offset : Nat) : Nat :=
  (String.ofList (cs.take offset)).utf8ByteSize

end Position

end CommandLine
