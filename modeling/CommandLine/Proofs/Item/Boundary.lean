import CommandLine.Proofs.Item.Readable

/-!
# Ends of lexemes

How much of a text decides where its first lexeme ends. What has to follow a terminal looks at no
more than two characters, and two texts with the same front begin with the same token if in both
of them a token ends within that front: `firstScan_front`.
-/

namespace CommandLine.Terminal
open CommandLine.Text CommandLine.Text.Scanner

variable {t u : Terminal} {cs ds rest other : List Char}

/-! ## What may follow -/

theorem noSlashes_of_head? (h : cs.head? ≠ some '/') : noSlashes cs = true := by
  rcases cs with _ | ⟨c, _ | ⟨d, cs⟩⟩
  · rfl
  · simp [noSlashes]
  · have apart : c ≠ '/' := by simpa using h
    simp [noSlashes_cons_cons, apart]

theorem noSlashes_of_endsValue (h : endsValue cs = true) : noSlashes cs = true :=
  noSlashes_append [] cs h

theorem follow_of_endsValue (h : endsValue cs = true) (other : t ≠ flag) : t.follow cs = true := by
  cases t with
  | key => exact noSlashes_of_endsValue h
  | flag => exact absurd rfl other
  | openBracket => rfl
  | comma => rfl
  | closeBracket => exact h
  | scalar form => exact h

theorem follow_of_endsWord (h : endsWord cs = true) (t : Terminal) : t.follow cs = true := by
  by_cases flagged : t = flag
  · exact flagged ▸ h
  · exact follow_of_endsValue (endsValue_of_endsWord h) flagged

/-- Of two terminals the one that asks for more can be followed by what may follow the other one,
or the other way round. -/
theorem follow_or_follow (ht : t.follow cs = true) (hu : u.follow ds = true) :
    t.follow ds = true ∨ u.follow cs = true := by
  have value (ends : endsValue cs = true) : t.follow ds = true ∨ u.follow cs = true := by
    by_cases flagged : u = flag
    · subst flagged
      exact .inl (follow_of_endsWord hu t)
    · exact .inr (follow_of_endsValue ends flagged)
  cases t with
  | flag => exact .inr (follow_of_endsWord ht u)
  | openBracket => exact .inl rfl
  | comma => exact .inl rfl
  | closeBracket => exact value ht
  | scalar form => exact value ht
  | key =>
    cases u with
    | key => exact .inl hu
    | flag => exact .inl (follow_of_endsWord hu key)
    | openBracket => exact .inr rfl
    | comma => exact .inr rfl
    | closeBracket => exact .inl (noSlashes_of_endsValue hu)
    | scalar form => exact .inl (noSlashes_of_endsValue hu)

/-- What may follow a terminal may end in another way, unless a slash comes in that could be the
second one. -/
theorem follow_front {c : Char} (h : t.follow (c :: cs ++ rest) = true)
    (apart : c = '/' → cs = [] → other.head? ≠ some '/') : t.follow (c :: cs ++ other) = true := by
  cases t with
  | key =>
    cases cs with
    | cons d cs =>
      have same : noSlashes (c :: d :: cs ++ other) = noSlashes (c :: d :: cs ++ rest) := by
        simp only [List.cons_append, noSlashes_cons_cons]
      exact same.trans h
    | nil =>
      by_cases slash : c = '/'
      · have second := apart slash rfl
        cases other with
        | nil => simp [Terminal.follow, noSlashes]
        | cons d other =>
          have second : d ≠ '/' := by simpa using second
          simp [Terminal.follow, noSlashes_cons_cons, second]
      · exact noSlashes_of_head? (by simpa using slash)
  | _ => exact h

theorem head?_ne_slash_of_endsValue (h : endsValue cs = true) : cs.head? ≠ some '/' := by
  have apart : '/' ∉ valueStops := by decide
  cases cs with
  | nil => simp
  | cons c cs => simpa using ne_of_endsValue h apart

/-- No second slash follows a lexeme that ends in a slash. -/
theorem head?_ne_slash_of_scan {l : List Char}
    (h : t.scan cs = some (l ++ ['/'], rest)) : rest.head? ≠ some '/' := by
  have followed := (before_eq_some.1 h).2
  cases t with
  | key =>
    obtain ⟨c, name, same, -⟩ := key_body_eq_some.1 (before_eq_some.1 h).1
    have last : (l ++ ['/']).getLast? = (c :: name ++ [':']).getLast? := congrArg _ same
    rw [List.getLast?_append, List.getLast?_append] at last
    simp at last
  | flag => exact head?_ne_slash_of_endsValue (endsValue_of_endsWord followed)
  | openBracket =>
    have last := congrArg List.getLast? (text_of_mark rfl h)
    simp at last
  | comma =>
    have last := congrArg List.getLast? (text_of_mark rfl h)
    simp at last
  | closeBracket => exact head?_ne_slash_of_endsValue followed
  | scalar form => exact head?_ne_slash_of_endsValue followed

end CommandLine.Terminal

namespace CommandLine.Item
open CommandLine.Text CommandLine.Text.Scanner CommandLine.Terminal

variable {sought : Terminal → Bool} {t u : Terminal} {l m k front tail other : List Char}

/-- One of two tokens at the same front is the front of the other one only if they are the same. -/
theorem firstScan_front_of_prefix
    (h : firstScan (byPriority.filter sought) (l ++ m ++ (front ++ tail)) =
      some (t, l ++ m, front ++ tail))
    (h' : firstScan (byPriority.filter sought) (l ++ (m ++ (front ++ other))) =
      some (u, l, m ++ (front ++ other))) : t = u ∧ m = [] := by
  obtain ⟨scanned, followed⟩ := follow_of_firstScan h
  obtain ⟨-, followed'⟩ := follow_of_firstScan h'
  cases m with
  | nil =>
    -- The lexemes are the same. One of the two terminals can have what follows the other one.
    simp only [List.append_nil, List.nil_append] at h h' followed'
    refine ⟨?_, rfl⟩
    rcases follow_or_follow followed followed' with here | there
    · have moved := firstScan_transfer h here
      rw [h'] at moved
      exact (congrArg Prod.fst (Option.some.inj moved)).symm
    · have moved := firstScan_transfer h' there
      rw [h] at moved
      exact congrArg Prod.fst (Option.some.inj moved)
  | cons c m =>
    -- The shorter lexeme would be read in the other text as well.
    have apart : c = '/' → m ++ front = [] → tail.head? ≠ some '/' := by
      rintro rfl nothing
      obtain ⟨rfl, rfl⟩ := List.append_eq_nil_iff.1 nothing
      exact head?_ne_slash_of_scan scanned
    rw [← List.append_assoc, List.cons_append] at followed'
    have moved : firstScan (byPriority.filter sought) (l ++ (c :: (m ++ front) ++ tail)) =
        some (u, l, c :: (m ++ front) ++ tail) :=
      firstScan_transfer h' (follow_front followed' apart)
    have same : l ++ (c :: (m ++ front) ++ tail) = l ++ c :: m ++ (front ++ tail) := by simp
    rw [same, h] at moved
    have lexemes : l ++ c :: m = l := congrArg (fun found => found.2.1) (Option.some.inj moved)
    simp at lexemes

/-- Two texts with the same front begin with the same token if in both of them a token ends within
that front. -/
theorem firstScan_front
    (h : firstScan (byPriority.filter sought) (l ++ (front ++ tail)) = some (t, l, front ++ tail))
    (h' : firstScan (byPriority.filter sought) (k ++ (m ++ other)) = some (u, k, m ++ other))
    (same : l ++ front = k ++ m) : t = u ∧ l = k ∧ front = m := by
  rcases List.append_eq_append_iff.1 same with ⟨more, rfl, rfl⟩ | ⟨more, rfl, rfl⟩
  · rw [List.append_assoc] at h
    obtain ⟨rfl, rfl⟩ := firstScan_front_of_prefix h' h
    simp
  · rw [List.append_assoc] at h'
    obtain ⟨rfl, rfl⟩ := firstScan_front_of_prefix h h'
    simp

end CommandLine.Item
