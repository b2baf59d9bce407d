/-!
# Double precision numbers

A finite double is held as a sign and its rank: its place among the non-negative finite doubles in
increasing order. So every double has one representation, its neighbours are its rank plus and
minus one, and all of arithmetic is arithmetic of natural numbers. Values are counted in units of
`2 ^ -1074`, the smallest positive double.
-/

namespace CommandLine

/-- How many doubles lie between one power of two and the next. -/
def stretch : Nat := Nat.pow 2 52

/-- How many non-negative finite doubles there are. -/
def finiteDoubles : Nat := 2047 * stretch

/-- A number in double precision. -/
inductive Double where
  | finite (negative : Bool) (rank : Fin finiteDoubles)
  | infinite (negative : Bool)
  | nan
deriving DecidableEq, Repr

/-- A quotient rounded to the nearest integer, a half to the even one. -/
def roundDiv (n d : Nat) : Nat :=
  let q := n / d
  let r := n % d
  if 2 * r < d ∨ (2 * r = d ∧ q % 2 = 0) then q else q + 1

namespace Double

/-- The value of a rank in units of `2 ^ -1074`. In the first two stretches of ranks the two are the
same; from then on every stretch has gaps twice as wide as the one before. -/
def units (rank : Nat) : Nat :=
  if rank < stretch then rank else (stretch + rank % stretch) * Nat.pow 2 (rank / stretch - 1)

/-- How many units make one. -/
def unitsPerOne : Nat := Nat.pow 2 1074

/-- The rank nearest to a fraction, an even one of two that are equally near. -/
def nearestRank (num den : Nat) : Nat :=
  let doublings := (num * unitsPerOne / den).log2 - 52
  doublings * stretch + roundDiv (num * unitsPerOne) (den * Nat.pow 2 doublings)

/-- The double nearest to a fraction. What lies beyond the greatest double by half a gap or more
becomes infinite. -/
def ofRatio (negative : Bool) (num den : Nat) : Double :=
  let rank := nearestRank num den
  if h : rank < finiteDoubles then finite negative ⟨rank, h⟩ else infinite negative

/-- Zero. -/
def zero (negative : Bool) : Double := finite negative ⟨0, by decide⟩

/-- The double nearest to an integer. -/
def ofInt (n : Int) : Double := ofRatio (decide (n < 0)) n.natAbs 1

/-- The finite value of a double in units, signed. -/
def signedUnits (negative : Bool) (rank : Nat) : Int :=
  if negative then -(units rank : Int) else units rank

/-! ## Order -/

/-- The place of a double among all doubles, the two zeros in one place. -/
def key? : Double → Option Int
  | finite false rank => some rank
  | finite true rank => some (-(rank : Int))
  | infinite false => some finiteDoubles
  | infinite true => some (-(finiteDoubles : Int))
  | nan => none

/-- Whether two doubles are equal as numbers: the zeros are, and NaN is not equal to itself. -/
def sameAs (x y : Double) : Bool :=
  match x.key?, y.key? with
  | some a, some b => a == b
  | _, _ => false

/-- Whether a double is less than another one. -/
def less (x y : Double) : Bool :=
  match x.key?, y.key? with
  | some a, some b => decide (a < b)
  | _, _ => false

/-! ## Arithmetic -/

/-- The double with the opposite sign. -/
def neg : Double → Double
  | finite negative rank => finite (!negative) rank
  | infinite negative => infinite (!negative)
  | nan => nan

/-- The double nearest to a sum. Opposite numbers sum up to the positive zero. -/
def add : Double → Double → Double
  | finite s a, finite t b =>
    let sum := signedUnits s a + signedUnits t b
    if sum = 0 then zero (s && t) else ofRatio (decide (sum < 0)) sum.natAbs unitsPerOne
  | infinite s, infinite t => if s = t then infinite s else nan
  | infinite s, finite _ _ => infinite s
  | finite _ _, infinite t => infinite t
  | nan, _ => nan
  | _, nan => nan

/-- The double nearest to a difference. -/
def sub (x y : Double) : Double := x.add y.neg

/-- The double nearest to a product. -/
def mul : Double → Double → Double
  | finite s a, finite t b =>
    ofRatio (s != t) (units a * units b) (unitsPerOne * unitsPerOne)
  | infinite s, infinite t => infinite (s != t)
  | infinite s, finite t b => if b.val = 0 then nan else infinite (s != t)
  | finite s a, infinite t => if a.val = 0 then nan else infinite (s != t)
  | nan, _ => nan
  | _, nan => nan

end Double

end CommandLine
