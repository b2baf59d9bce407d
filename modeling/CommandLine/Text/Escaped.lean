/-!
# Strings between double quotes

Inside a quoted string a quote is written behind a backslash. Nothing else is escaped: every other
backslash stands for itself.
-/

namespace CommandLine.Text

/-- Writes every quote behind a backslash. -/
def escapeQuotes : List Char → List Char
  | [] => []
  | c :: cs => if c = '"' then '\\' :: '"' :: escapeQuotes cs else c :: escapeQuotes cs

/-- Takes the backslash away before every quote. -/
def unescapeQuotes : List Char → List Char
  | '\\' :: '"' :: cs => '"' :: unescapeQuotes cs
  | c :: cs => c :: unescapeQuotes cs
  | [] => []

/-- A string as it is written between double quotes. -/
def encodeString (cs : List Char) : List Char := '"' :: escapeQuotes cs ++ ['"']

/-- The string that stands between the first and the last character of a text. -/
def decodeString (cs : List Char) : List Char := unescapeQuotes (cs.drop 1).dropLast

theorem head?_escapeQuotes (cs : List Char) : (escapeQuotes cs).head? ≠ some '"' := by
  cases cs with
  | nil => simp [escapeQuotes]
  | cons c cs => by_cases h : c = '"' <;> simp [escapeQuotes, h]

/-- A character is kept unless it is a backslash before a quote. -/
theorem unescapeQuotes_cons {c : Char} {cs : List Char} (h : c ≠ '\\' ∨ cs.head? ≠ some '"') :
    unescapeQuotes (c :: cs) = c :: unescapeQuotes cs := by
  rw [unescapeQuotes]
  rintro rest rfl rfl
  simp at h

/-- What is escaped comes back unchanged. -/
theorem unescapeQuotes_escapeQuotes (cs : List Char) : unescapeQuotes (escapeQuotes cs) = cs := by
  induction cs with
  | nil => rfl
  | cons c cs ih =>
    by_cases h : c = '"'
    · simp [escapeQuotes, unescapeQuotes, h, ih]
    · rw [escapeQuotes, if_neg h, unescapeQuotes_cons (.inr (head?_escapeQuotes cs)), ih]

end CommandLine.Text
