import CommandLine.Terminal
import CommandLine.Text.Character
import CommandLine.Text.Letter
import CommandLine.Text.Scanner

/-!
# Lexemes of terminals

How each terminal is recognised at the front of a text. Most lexemes have to be followed by
something that cannot belong to them, so that no token is a piece of a longer word.
-/

namespace CommandLine.Terminal
open CommandLine.Text
open CommandLine.Text.Scanner

/-! ## What may follow a lexeme -/

/-- The end of the text, a blank, a comma or a closing bracket. -/
def endsValue : List Char → Bool
  | [] => true
  | c :: _ => isBlank c || c == ',' || c == ']'

/-- The end of the text or a blank. -/
def endsWord : List Char → Bool
  | [] => true
  | c :: _ => isBlank c

/-- Anything but two slashes, which would make the text before them a scheme. -/
def noSlashes : List Char → Bool
  | '/' :: '/' :: _ => false
  | _ => true

/-! ## Classes of characters -/

/-- Characters of a bareword after the first one. -/
def isBare (c : Char) : Bool := !(isBlank c || c == '[' || c == ']' || c == ',')

/-- Characters that a bareword can begin with. -/
def isBareStart (c : Char) : Bool := isBare c && c != '"' && c != '-'

/-- Characters of a keyword's name after the first one. -/
def isKey (c : Char) : Bool := isBare c && c != ':'

/-- Characters that a keyword's name can begin with. -/
def isKeyStart (c : Char) : Bool := isBareStart c && c != ':'

/-- Characters that a flag's name can begin with: word characters other than decimal digits. -/
def isFlagStart (c : Char) : Bool := isWordChar c && !isDigit c

/-- Characters of a flag's name after the first one. -/
def isFlag (c : Char) : Bool := isWordChar c || c == '-'

/-- Whether a character is a given lower-case letter in either case. The long s counts as an s. -/
def sameLetter (letter c : Char) : Bool := c.toLower == letter || (letter == 's' && c == 'ſ')

/-- A text that does not begin with two dots. -/
def noDots : List Char → Bool
  | '.' :: '.' :: _ => false
  | _ => true

/-! ## Numbers -/

/-- Decimal digits. -/
def digits : Scanner := many1 isAsciiDigit

/-- Digits with an optional minus sign. -/
def integer : Scanner := (optional (one (· == '-'))).seq digits

/-- The two dots of a range. -/
def dots : Scanner := (one (· == '.')).seq (one (· == '.'))

/-- The exponent of a number. -/
def exponent : Scanner :=
  (one fun c => c == 'e' || c == 'E').seq
    ((optional (one fun c => c == '+' || c == '-')).seq digits)

/-- What makes an integer a fractional number: a fraction, an exponent, or both. -/
def fraction : Scanner :=
  ((one (· == '.')).seq (digits.seq (optional exponent))).orElse exponent

/-! ## Quoted strings -/

/-- Cuts a text before the first quote that no backslash precedes directly. The flag tells whether
a backslash stands before the text; `taken` holds what was passed so far, newest first. -/
def cutAtQuote (afterBackslash : Bool) (taken : List Char) : List Char → List Char × List Char
  | [] => (taken.reverse, [])
  | c :: cs =>
    if c = '"' ∧ afterBackslash = false then (taken.reverse, c :: cs)
    else cutAtQuote (c == '\\') (c :: taken) cs

/-- The inside of a quoted string. -/
def quotedBody : Scanner := fun cs => some (cutAtQuote false [] cs)

/-! ## All terminals -/

/-- The lexeme of a terminal, whatever follows it. -/
def body : Terminal → Scanner
  | key => only noDots ((one isKeyStart).seq ((many isKey).seq (one (· == ':'))))
  | flag => (one (· == '-')).seq ((one isFlagStart).seq (many isFlag))
  | openBracket => one (· == '[')
  | closeBracket => one (· == ']')
  | comma => one (· == ',')
  | scalar .range => integer.seq (dots.seq integer)
  | scalar .rangeTo => dots.seq integer
  | scalar .bool =>
    (word sameLetter ['t', 'r', 'u', 'e']).orElse (word sameLetter ['f', 'a', 'l', 's', 'e'])
  | scalar .float => integer.seq fraction
  | scalar .int => integer
  | scalar .quoted => (one (· == '"')).seq (quotedBody.seq (one (· == '"')))
  | scalar .bareword => (one isBareStart).seq (many isBare)

/-- What has to follow a lexeme of a terminal. -/
def follow : Terminal → List Char → Bool
  | key => noSlashes
  | flag => endsWord
  | openBracket => fun _ => true
  | comma => fun _ => true
  | closeBracket => endsValue
  | scalar _ => endsValue

/-- The lexeme of a terminal at the front of a text. -/
def scan (t : Terminal) : Scanner := t.body.before t.follow

/-! ## Lexemes are not empty -/

theorem digits_proper : digits.Proper := many1_proper _

theorem integer_proper : integer.Proper :=
  Proper.seq_right (one_proper _).sound.optional digits_proper

theorem dots_proper : dots.Proper := (one_proper _).seq_left (one_proper _).sound

theorem exponent_proper : exponent.Proper :=
  (one_proper _).seq_left ((one_proper _).sound.optional.seq digits_proper.sound)

theorem fraction_proper : fraction.Proper :=
  Proper.orElse ((one_proper _).seq_left (digits_proper.sound.seq exponent_proper.sound.optional))
    exponent_proper

theorem cutAtQuote_append (afterBackslash : Bool) (taken cs : List Char) :
    (cutAtQuote afterBackslash taken cs).1 ++ (cutAtQuote afterBackslash taken cs).2 =
      taken.reverse ++ cs := by
  fun_induction cutAtQuote afterBackslash taken cs with
  | case1 => rfl
  | case2 => rfl
  | case3 _ _ _ _ _ ih => simp [ih]

theorem quotedBody_sound : quotedBody.Sound := by
  intro cs l r h
  have e : cutAtQuote false [] cs = (l, r) := by simpa [quotedBody] using h
  simpa [e] using (cutAtQuote_append false [] cs).symm

theorem body_proper (t : Terminal) : t.body.Proper := by
  cases t with
  | key => exact ((one_proper _).seq_left ((many_sound _).seq (one_proper _).sound)).only _
  | flag => exact (one_proper _).seq_left ((one_proper _).sound.seq (many_sound _))
  | openBracket => exact one_proper _
  | closeBracket => exact one_proper _
  | comma => exact one_proper _
  | scalar form =>
    cases form with
    | range => exact integer_proper.seq_left (dots_proper.sound.seq integer_proper.sound)
    | rangeTo => exact dots_proper.seq_left integer_proper.sound
    | bool => exact (word_proper _ (by simp)).orElse (word_proper _ (by simp))
    | float => exact integer_proper.seq_left fraction_proper.sound
    | int => exact integer_proper
    | quoted => exact (one_proper _).seq_left (quotedBody_sound.seq (one_proper _).sound)
    | bareword => exact (one_proper _).seq_left (many_sound _)

/-- A terminal's lexeme is the front of the text, and not empty. -/
theorem scan_proper (t : Terminal) : t.scan.Proper := (body_proper t).before _

end CommandLine.Terminal
