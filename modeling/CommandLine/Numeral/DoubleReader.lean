import CommandLine.Numeral.Double
import CommandLine.Numeral.Integer

/-!
# Reading doubles

A text is read as the double nearest to the decimal number that it writes. Besides the usual form
with point and exponent, blanks around the number as for integers, single underscores between
digits, digits of any script and the words for infinity and NaN are allowed.
-/

namespace CommandLine
open CommandLine.Numeral CommandLine.Text

namespace Double

/-- The double nearest to `ofDigits ds * 10 ^ exponent`. Numbers far beyond the greatest double or
far below the smallest one are told by the place of their first digit. -/
def ofDecimal (negative : Bool) (ds : List Nat) (exponent : Int) : Double :=
  let significant := ds.dropWhile (· == 0)
  let point := (significant.length : Int) + exponent
  if significant.isEmpty then zero negative
  else if 310 < point then infinite negative
  else if point < -330 then zero negative
  else
    ofRatio negative (ofDigits significant * Nat.pow 10 exponent.toNat)
      (Nat.pow 10 (-exponent).toNat)

/-- Whether a text is a lower-case word in any case. -/
def isWord (word : String) (cs : List Char) : Bool := cs.map Char.toLower == word.toList

/-- Digits, or nothing at all. -/
def readDigitsOrNone (cs : List Char) : Option (List Nat) :=
  if cs.isEmpty then some [] else readDigits false cs

/-- An exponent: digits with an optional sign. -/
def readExponent (cs : List Char) : Option Int :=
  let (negative, body) := splitSign cs
  (readDigits false body).map fun ds => if negative then -(ofDigits ds : Int) else ofDigits ds

/-- An unsigned decimal number: digits with an optional point among them, then perhaps an
exponent. -/
def readUnsigned (cs : List Char) : Option (List Nat × Int) :=
  let isMark := fun c => c == 'e' || c == 'E'
  let mantissa := cs.takeWhile (!isMark ·)
  let whole := mantissa.takeWhile (· != '.')
  let fraction := (mantissa.dropWhile (· != '.')).drop 1
  let exponent? :=
    match cs.dropWhile (!isMark ·) with
    | [] => some 0
    | _ :: rest => readExponent rest
  match readDigitsOrNone whole, readDigitsOrNone fraction, exponent? with
  | some ws, some fs, some exponent =>
    if (ws ++ fs).isEmpty then none else some (ws ++ fs, exponent - fs.length)
  | _, _, _ => none

/-- The double that a text stands for. -/
def read? (cs : List Char) : Option Double :=
  let (negative, body) := splitSign (trim cs)
  if isWord "inf" body || isWord "infinity" body then some (infinite negative)
  else if isWord "nan" body then some nan
  else (readUnsigned body).map fun (ds, exponent) => ofDecimal negative ds exponent

end Double

end CommandLine
