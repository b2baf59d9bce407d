import CommandLine.Fuzz.Campaign
import CommandLine.Proofs.Terminal.Number
import CommandLine.Proofs.Text.Quoting

/-!
# What a campaign prints

Every text that is printed ends its last line, so the lines of the whole output are the lines of
the texts. A notice of a finding has one line that begins with the mark of a finding, and none of
the other texts has any, unless the name of the directory breaks a line.
-/

namespace CommandLine.Fuzz
open CommandLine.Text CommandLine.Numeral CommandLine.Terminal

/-! ## Texts on one line -/

theorem newline_not_mem_tally (t : Tally) : '\n' ∉ t.text.toList := by
  unfold Tally.text
  simp [newline_not_mem_toDigits]

/-- A number with fixed places has digits, sign and point, or is a word. -/
theorem mem_fixed {places : Nat} {x : Double} {c : Char} (h : c ∈ (x.fixed places).toList) :
    isAsciiDigit c = true ∨ c ∈ "-.infa".toList := by
  cases x with
  | finite negative rank =>
    have inDigits {n : Nat} (mem : c ∈ Numeral.digits n) : isAsciiDigit c = true :=
      (isDigits_digits n).2 c mem
    have inSign (mem : c ∈ Double.sign negative) : c ∈ "-.infa".toList := by
      cases negative with
      | false => simp [Double.sign] at mem
      | true => rw [List.mem_singleton.1 mem]; decide
    have point (same : c = '.') : c ∈ "-.infa".toList := by rw [same]; decide
    simp only [Double.fixed, Double.fixedRatio, String.toList_ofList, List.mem_append,
      List.mem_cons] at h
    rcases h with ((mem | mem) | same | mem) | mem
    · exact .inr (inSign mem)
    · exact .inl (inDigits mem)
    · exact .inr (point same)
    · exact .inl (isAsciiDigit_of_mem_zeros c mem)
    · exact .inl (inDigits mem)
  | infinite negative => cases negative <;> simp_all [Double.fixed] <;> grind
  | nan => simp_all [Double.fixed]; grind

theorem newline_not_mem_fixed (places : Nat) (x : Double) : '\n' ∉ (x.fixed places).toList :=
  fun h => (mem_fixed h).elim (by decide) (by decide)

theorem exclamation_not_mem_fixed (places : Nat) (x : Double) : '!' ∉ (x.fixed places).toList :=
  fun h => (mem_fixed h).elim (by decide) (by decide)

theorem mem_shortName {line : String} {c : Char} (h : c ∈ (Digest.shortName line).toList) :
    c ∈ "0123456789abcdef".toList := by
  have nibbles : ∀ n, n < 16 → (if n < 10 then Char.ofNat (48 + n) else Char.ofNat (87 + n)) ∈
      "0123456789abcdef".toList := by decide
  rw [Digest.shortName, String.toList_ofList, List.mem_flatMap] at h
  obtain ⟨b, -, mem⟩ := h
  have small : b.toNat < 256 := b.toNat_lt
  simp only [Digest.hexByte, List.map_cons, List.map_nil, List.mem_cons, List.not_mem_nil,
    or_false] at mem
  rcases mem with rfl | rfl
  · exact nibbles _ (by omega)
  · exact nibbles _ (by omega)

theorem newline_not_mem_shortName (line : String) : '\n' ∉ (Digest.shortName line).toList :=
  fun h => absurd (mem_shortName h) (by decide)

theorem newline_not_mem_pathIn {directory fileName : String} (hd : '\n' ∉ directory.toList)
    (hf : '\n' ∉ fileName.toList) : '\n' ∉ (Finding.pathIn directory fileName).toList := by
  unfold Finding.pathIn
  split
  · exact hf
  · split <;> simp [hd, hf]

/-! ## Lines that begin with the mark of a finding -/

/-- How many lines of a text begin with the mark of a finding. -/
def noticeLines (cs : List Char) : Nat := (cs.splitOn '\n').countP ("[!]".toList.isPrefixOf ·)

theorem noticeLines_append_newline (cs rest : List Char) :
    noticeLines (cs ++ '\n' :: rest) = noticeLines cs + noticeLines rest := by
  rw [noticeLines, List.splitOn_append_cons_self, List.countP_append, noticeLines, noticeLines]

theorem noticeLines_of_line {cs : List Char} (line : '\n' ∉ cs) :
    noticeLines cs = if "[!]".toList.isPrefixOf cs then 1 else 0 := by
  rw [noticeLines, List.splitOn_eq_singleton line, List.countP_singleton]

/-- A text that ends its last line and has so many lines that begin with the mark of a finding. -/
def Tells (text : String) (count : Nat) : Prop :=
  ∀ rest, noticeLines (text.toList ++ rest) = count + noticeLines rest

/-- A whole line that does not begin with the mark of a finding tells of none. -/
theorem tells_of_line {text : String} {cs : List Char} (same : text.toList = cs ++ ['\n'])
    (line : '\n' ∉ cs) (unmarked : "[!]".toList.isPrefixOf cs = false) : Tells text 0 := by
  intro rest
  rw [same, List.append_assoc, List.singleton_append, noticeLines_append_newline,
    noticeLines_of_line line, unmarked, if_neg (by decide)]

/-- Whether a text is a notice of a finding. -/
def isNotice (text : String) : Bool := "\n[!] ".toList.isPrefixOf text.toList

/-- A text that is no notice of a finding and, unless the name of the directory breaks a line, has
no line that begins as one. -/
structure Plain (directory text : String) : Prop where
  unmarked : isNotice text = false
  silent : '\n' ∉ directory.toList → Tells text 0

theorem plain_beginning (directory : String) (seeds : Nat) :
    Plain directory ("Fuzzing with " ++ toString seeds ++ " seed inputs, findings in " ++
      directory ++ "\n") where
  unmarked := by
    simp only [isNotice, String.toList_append, List.append_assoc]
    rfl
  silent whole := by
    refine tells_of_line String.toList_append ?_ ?_
    · simp [newline_not_mem_toDigits, whole]
    · simp only [String.toList_append, List.append_assoc]
      rfl

theorem plain_tally (directory : String) (elapsed : Double) (t : Tally) :
    Plain directory ("[" ++ elapsed.fixed 1 ++ "s] " ++ t.text ++ "\n") where
  unmarked := by
    simp only [isNotice, String.toList_append, List.append_assoc]
    rfl
  silent _ := by
    refine tells_of_line String.toList_append ?_ ?_
    · simp only [String.toList_append, List.mem_append, newline_not_mem_tally,
        newline_not_mem_fixed, or_false]
      decide
    · have first := exclamation_not_mem_fixed 1 elapsed
      simp only [String.toList_append]
      -- The second character is the first one of the number, if it has one.
      cases number : (elapsed.fixed 1).toList with
      | nil => rfl
      | cons d ds =>
        have : ('!' == d) = false := by
          rw [beq_eq_false_iff_ne]
          rintro rfl
          exact first (by simp [number])
        simp [List.isPrefixOf, this]

theorem plain_interruption (directory : String) : Plain directory "\nInterrupted\n" where
  unmarked := rfl
  silent _ rest := by
    have : ("\nInterrupted\n" : String).toList ++ rest =
        [] ++ '\n' :: ("Interrupted".toList ++ '\n' :: rest) := rfl
    rw [this, noticeLines_append_newline, noticeLines_append_newline,
      noticeLines_of_line (by decide), noticeLines_of_line (by decide)]
    simp [List.isPrefixOf]

theorem plain_heading (directory : String) : Plain directory "Final Statistics:\n" where
  unmarked := rfl
  silent _ := by
    have whole : ("Final Statistics:\n" : String).toList = "Final Statistics:".toList ++ ['\n'] :=
      rfl
    exact tells_of_line whole (by decide) rfl

theorem isNotice_notice (directory : String) (f : Finding) :
    isNotice (f.notice directory) = true := by
  simp [isNotice, Finding.notice, String.toList_append]

/-- A notice of a finding has one line that begins with the mark, behind an empty one. -/
theorem tells_notice {directory : String} {f : Finding} (hd : '\n' ∉ directory.toList)
    (hc : '\n' ∉ f.category.toList) : Tells (f.notice directory) 1 := by
  intro rest
  have named : '\n' ∉ f.fileName.toList := by
    simp only [Finding.fileName, Finding.digest, String.toList_append, List.mem_append, hc,
      newline_not_mem_shortName, or_false]
    decide
  have line : '\n' ∉ ("[!] " ++ f.category ++ ": " ++ quote f.line ++ " -> " ++
      Finding.pathIn directory f.fileName).toList := by
    simp only [String.toList_append, List.mem_append, hc, newline_not_mem_quote,
      newline_not_mem_pathIn hd named, or_false]
    decide
  have split : (f.notice directory).toList ++ rest = [] ++ '\n' :: (("[!] " ++ f.category ++
      ": " ++ quote f.line ++ " -> " ++ Finding.pathIn directory f.fileName).toList ++
      '\n' :: rest) := by
    have : ("\n[!] " : String).toList = '\n' :: "[!] ".toList := rfl
    have : ("\n" : String).toList = ['\n'] := rfl
    simp [Finding.notice, *]
  rw [split, noticeLines_append_newline, noticeLines_append_newline, noticeLines_of_line line]
  simp only [String.toList_append, List.append_assoc]
  exact (Nat.zero_add _).symm ▸ rfl

end CommandLine.Fuzz
