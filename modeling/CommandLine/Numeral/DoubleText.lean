import CommandLine.Numeral.Double
import CommandLine.Numeral.Integer

/-!
# Doubles in decimal

A double is written with the fewest digits that read back as that double, and of those with the
digits nearest to it. `Layout` says how digits and exponent are laid out. With a fixed number of
places a number is rounded instead, a half to the even neighbour.
-/

namespace CommandLine
open CommandLine.Numeral

namespace Double

/-! ## Shortest digits -/

/-- A decimal number: an integer and the power of ten that it is multiplied with. -/
structure Decimal where
  coefficient : Nat
  exponent : Int
deriving DecidableEq, Repr

/-- How many decimal digits a number has; none for zero. -/
def decimalLength (n : Nat) : Nat := if n = 0 then 0 else (digits n).length

/-- The power of ten just above a positive fraction: its exponent. -/
def magnitude (num den : Nat) : Int :=
  if den ≤ num then decimalLength (num / den)
  else
    let shift := decimalLength (den / num)
    (decimalLength (num * Nat.pow 10 shift / den) : Int) - shift

/-- The decimal number with a given number of digits that is nearest to the double of a positive
rank, if it reads back as that double. What reads back lies between the midpoints to the
neighbouring doubles, and may lie on a midpoint if the rank is even. -/
def candidate? (rank count : Nat) : Option Decimal :=
  -- All numbers are taken in half units, so that midpoints are whole.
  let exact := 2 * units rank
  let low := units (rank - 1) + units rank
  let high := units rank + units (rank + 1)
  let exponent := magnitude exact (2 * unitsPerOne) - count
  let up := Nat.pow 10 (-exponent).toNat
  let gap := 2 * unitsPerOne * Nat.pow 10 exponent.toNat
  let coefficient := exact * up / gap
  let readsBack (c : Nat) : Bool :=
    (decide (low * up < c * gap) || (rank % 2 == 0 && low * up == c * gap)) &&
      (decide (c * gap < high * up) || (rank % 2 == 0 && c * gap == high * up))
  let below := exact * up - coefficient * gap
  let above := (coefficient + 1) * gap - exact * up
  let lowerFirst := decide (below < above) || (below == above && coefficient % 2 == 0)
  let (first, second) :=
    if lowerFirst then (coefficient, coefficient + 1) else (coefficient + 1, coefficient)
  if readsBack first then some ⟨first, exponent⟩
  else if readsBack second then some ⟨second, exponent⟩
  else none

/-- The first count of digits, from `count` on, with which a double can be written. Seventeen
digits are always enough. -/
def searchDigits (rank : Nat) : Nat → Nat → Decimal
  | 0, _ => ⟨0, 0⟩
  | tries + 1, count =>
    match candidate? rank count with
    | some d => d
    | none => searchDigits rank tries (count + 1)

/-- The decimal number that the double of a positive rank is written as. -/
def shortest (rank : Nat) : Decimal := searchDigits rank 17 1

/-! ## Layout -/

/-- How a decimal number is laid out. -/
structure Layout where
  /-- The least exponent of the first digit that is written without an exponent. -/
  least : Int
  /-- The first exponent of the first digit, from one up, that is written with an exponent. -/
  beyond : Int
  /-- The least number of digits in an exponent. -/
  exponentDigits : Nat

/-- Exponents from -4 to 15 are not written; written ones have a sign and at least two digits. -/
def plainLayout : Layout := ⟨-4, 16, 2⟩

/-- Digits without the zeros at their end, and how many these were. -/
def dropTrailingZeros (ds : List Char) : List Char :=
  (ds.reverse.dropWhile (· == '0')).reverse

/-- Zeros. -/
def zeros (n : Nat) : List Char := List.replicate n '0'

/-- Digits with the point behind the first `point` of them, at least one digit on either side. -/
def positional (ds : List Char) (point : Int) : List Char :=
  if point ≤ 0 then '0' :: '.' :: zeros (-point).toNat ++ ds
  else if ds.length ≤ point.toNat then ds ++ zeros (point.toNat - ds.length) ++ ['.', '0']
  else ds.take point.toNat ++ '.' :: ds.drop point.toNat

/-- Digits with a point behind the first one, if there are more, and the exponent. -/
def scientific (width : Nat) (ds : List Char) (exponent : Int) : List Char :=
  let mantissa :=
    match ds with
    | d :: e :: rest => d :: '.' :: e :: rest
    | ds => ds
  let magnitudeDigits := digits exponent.natAbs
  mantissa ++ 'e' :: (if exponent < 0 then '-' else '+') ::
    zeros (width - magnitudeDigits.length) ++ magnitudeDigits

/-- A decimal number in a layout. -/
def Layout.chars (layout : Layout) (d : Decimal) : List Char :=
  let all := digits d.coefficient
  let ds := dropTrailingZeros all
  let leading : Int := d.exponent + all.length - 1
  if layout.least ≤ leading ∧ leading < layout.beyond then positional ds (leading + 1)
  else scientific layout.exponentDigits ds leading

/-- The minus sign of a negative number. -/
def sign (negative : Bool) : List Char := if negative then ['-'] else []

/-- A double in decimal. -/
def text : Double → String
  | finite negative rank =>
    String.ofList (sign negative ++
      if rank.val = 0 then ['0', '.', '0'] else plainLayout.chars (shortest rank))
  | infinite negative => if negative then "-inf" else "inf"
  | nan => "nan"

/-! ## Fixed places -/

/-- A fraction rounded to a fixed positive number of decimal places. A negative number keeps its
sign even if it rounds to zero. -/
def fixedRatio (places : Nat) (negative : Bool) (num den : Nat) : String :=
  let one := Nat.pow 10 places
  let scaled := roundDiv (num * one) den
  let fractional := digits (scaled % one)
  String.ofList (sign negative ++ digits (scaled / one) ++
    '.' :: zeros (places - fractional.length) ++ fractional)

/-- A double rounded to a fixed positive number of decimal places. -/
def fixed (places : Nat) : Double → String
  | finite negative rank => fixedRatio places negative (units rank) unitsPerOne
  | infinite negative => if negative then "-inf" else "inf"
  | nan => "nan"

end Double

end CommandLine
