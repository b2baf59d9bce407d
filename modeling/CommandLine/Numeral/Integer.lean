import CommandLine.Text.Character

/-!
# Integers in decimal

How integers are written and read. Writing gives the one shortest form. Reading is liberal: blanks
around the number, a plus sign, leading zeros, digits of any script and single underscores between
digits are allowed, but no more than `digitLimit` digits. Of two faults the one further to the left
is told.
-/

namespace CommandLine.Numeral
open CommandLine.Text

/-! ## Writing -/

/-- The character of a digit. -/
def digitChar (n : Nat) : Char := Char.ofNat (48 + n)

/-- Puts the decimal digits of a number before some characters. -/
def digitsOnto (n : Nat) (rest : List Char) : List Char :=
  if n < 10 then digitChar n :: rest else digitsOnto (n / 10) (digitChar (n % 10) :: rest)

/-- The decimal digits of a number, most significant first. -/
def digits (n : Nat) : List Char := digitsOnto n []

/-- An integer in decimal, with a minus sign if it is negative. -/
def decimalChars : Int → List Char
  | .ofNat n => digits n
  | .negSucc n => '-' :: digits (n + 1)

/-- An integer in decimal. -/
def decimal (n : Int) : String := String.ofList (decimalChars n)

/-! ## Reading -/

/-- The number with given digits, most significant first. -/
def ofDigits (ds : List Nat) : Nat := ds.foldl (fun n d => 10 * n + d) 0

/-- Digits with single underscores between them. The flag tells whether an underscore may come
next; one that was read has to be followed by a digit. -/
def readDigits (underscoreAllowed : Bool) : List Char → Option (List Nat)
  | [] => if underscoreAllowed then some [] else none
  | c :: cs =>
    if c = '_' then if underscoreAllowed then readDigits false cs else none
    else match digitValue? c with
      | some d => (readDigits true cs).map (d :: ·)
      | none => none

/-- Whether a character may stand around a number: a blank other than the information
separators. -/
def isMargin (c : Char) : Bool := isBlank c && !(0x1c ≤ c.toNat && c.toNat ≤ 0x1f)

/-- A text without the margins around it. -/
def trim (cs : List Char) : List Char :=
  ((cs.dropWhile isMargin).reverse.dropWhile isMargin).reverse

/-- Whether a character may stand among the digits of a number. -/
def isNumeralChar (c : Char) : Bool := (digitValue? c).isSome || c == '_'

/-- A text cut into its sign, true for a minus, and the rest. -/
def splitSign : List Char → Bool × List Char
  | '-' :: cs => (true, cs)
  | '+' :: cs => (false, cs)
  | cs => (false, cs)

/-- How many digits a number may be written with to be read. -/
def digitLimit : Nat := 4300

/-- Whether an integer can be written: it must not have more digits than can be read. -/
def isWritable (n : Int) : Bool := (digits n.natAbs).length ≤ digitLimit

/-- Why a text is not read as an integer. -/
inductive IntegerFault where
  | malformed
  | tooManyDigits (count : Nat)
deriving DecidableEq, Repr

/-- The integer that a text stands for. -/
def readInteger (cs : List Char) : Except IntegerFault Int :=
  let (negative, body) := splitSign (trim cs)
  match readDigits false (body.takeWhile isNumeralChar) with
  | none => .error .malformed
  | some ds =>
    if ds.length > digitLimit then .error (.tooManyDigits ds.length)
    else if (body.dropWhile isNumeralChar).isEmpty then
      .ok (if negative then -(ofDigits ds : Int) else ofDigits ds)
    else .error .malformed

end CommandLine.Numeral
