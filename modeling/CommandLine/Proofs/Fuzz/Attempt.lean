import CommandLine.Fuzz.Campaign

/-!
# Draws that may fail

In a campaign a choice from nothing gives something of no meaning. Here such a choice fails. What is
made at random is the same in both, and so never comes to such a choice (`ofDraw_mutate`).
-/

namespace CommandLine.Fuzz
open CommandLine.Text CommandLine.Fuzz.Draw

/-- A draw that fails where there is nothing to choose from. -/
abbrev Attempt := StateT Source Option

instance : Drawing Attempt where
  next := fun source => some source.next
  nothing := failure

namespace Attempt

variable {α β : Type}

/-- A draw as an attempt that does not fail. -/
def ofDraw (d : Draw α) : Attempt α := fun source => some (d.run source)

@[simp]
theorem ofDraw_pure (x : α) : ofDraw (pure x) = pure x := funext fun _ => rfl

@[simp]
theorem ofDraw_bind (d : Draw α) (next : α → Draw β) :
    ofDraw (d >>= next) = ofDraw d >>= fun x => ofDraw (next x) := funext fun _ => rfl

@[simp]
theorem ofDraw_map (f : α → β) (d : Draw α) : ofDraw (f <$> d) = f <$> ofDraw d :=
  funext fun _ => rfl

@[simp]
theorem ofDraw_ite (c : Prop) [Decidable c] (d e : Draw α) :
    ofDraw (if c then d else e) = if c then ofDraw d else ofDraw e := by
  split <;> rfl

/-! ## Numbers and choices -/

@[simp]
theorem ofDraw_next : ofDraw Drawing.next = Drawing.next := funext fun _ => rfl

@[simp]
theorem ofDraw_fraction : ofDraw fraction = fraction := by simp [fraction]

@[simp]
theorem ofDraw_chance (percent : Nat) : ofDraw (chance percent) = chance percent := by
  simp [chance]

theorem ofDraw_below {n : Nat} (positive : 0 < n) : ofDraw (below n) = below n := by
  have more : n ≠ 0 := by omega
  simp [below, more]

theorem ofDraw_within {low beyond : Nat} (h : low < beyond) :
    ofDraw (within low beyond) = within low beyond := by
  simp [within, ofDraw_below (Nat.sub_pos_of_lt h)]

theorem ofDraw_between {low high : Nat} (h : low ≤ high) :
    ofDraw (between low high) = between low high := ofDraw_within (Nat.lt_succ_of_le h)

@[simp]
theorem ofDraw_around (distance : Nat) : ofDraw (around distance) = around distance := by
  simp [around, ofDraw_between (Nat.zero_le _)]

theorem ofDraw_pick [Inhabited α] {xs : List α} (nonempty : xs ≠ []) :
    ofDraw (pick xs) = pick xs := by
  simp [pick, ofDraw_below (List.length_pos_iff.2 nonempty)]

@[simp]
theorem ofDraw_times (n : Nat) (d : Draw α) : ofDraw (times n d) = times n (ofDraw d) := by
  induction n with
  | zero => rfl
  | succ n ih => simp [times, ih]

@[simp]
theorem ofDraw_mapM {f : α → Draw β} (xs : List α) :
    ofDraw (xs.mapM f) = xs.mapM fun x => ofDraw (f x) := by
  induction xs with
  | nil => rfl
  | cons x xs ih => simp [ih]

/-! ## Tokens and values -/

theorem ofDraw_identifier : ofDraw identifier = identifier := by
  have names : identifiers ≠ [] := by decide
  simp [identifier, ofDraw_pick, ofDraw_between, names, -List.append_assoc]

theorem ofDraw_scientific : ofDraw scientific = scientific := by
  simp [scientific, ofDraw_pick, ofDraw_between]

theorem ofDraw_number : ofDraw number = number := by
  have numbers : edgeNumbers ≠ [] := by decide
  simp [number, smallDecimal, ofDraw_scientific, ofDraw_pick numbers]

theorem ofDraw_quotedString : ofDraw quotedString = quotedString := by
  have known : texts ["\"\"", "\"test\"", "\" \"", "\"a \\\" b\"", "\"[1, 2]\""] ≠ [] := by decide
  have chars : stringChars ≠ [] := by simp [stringChars]
  simp [quotedString, ofDraw_pick known, ofDraw_pick chars, ofDraw_between]

theorem ofDraw_boundedRange : ofDraw boundedRange = boundedRange := by
  simp [boundedRange, ofDraw_pick]

theorem ofDraw_scalar : ofDraw scalar = scalar := by
  rw [scalar, ofDraw_bind, ofDraw_between (by decide), scalar]
  congr 1
  funext form
  match form with
  | 0 => exact ofDraw_number
  | 1 => exact ofDraw_pick (by decide)
  | 2 => exact ofDraw_quotedString
  | 3 => exact ofDraw_pick (by decide)
  | 4 => exact ofDraw_boundedRange
  | _ + 5 => exact ofDraw_identifier

theorem ofDraw_value (levels : Nat) : ofDraw (value levels) = value levels := by
  induction levels with
  | zero => simp [value, ofDraw_scalar]
  | succ levels ih => simp [value, ofDraw_scalar, ofDraw_between, ih]

theorem ofDraw_item : ofDraw item = item := by
  rw [item, ofDraw_bind, ofDraw_between (by decide), item]
  congr 1
  funext form
  match form with
  | 0 => simp [ofDraw_identifier, ofDraw_pick, ofDraw_value]
  | 1 => simp [ofDraw_identifier]
  | _ + 2 => simp [ofDraw_value]

theorem ofDraw_line : ofDraw Fuzz.line = Fuzz.line := by
  simp [Fuzz.line, items, ofDraw_between, ofDraw_item]

/-! ## Mutations -/

variable (line : List Char)

theorem ofDraw_insertToken : ofDraw (insertToken line) = insertToken line := by
  have known : separators ≠ [] := by decide
  simp [insertToken, ofDraw_pick, known, ofDraw_between, ofDraw_identifier, ofDraw_value]

theorem ofDraw_dropSpan : ofDraw (dropSpan line) = dropSpan line := by
  unfold dropSpan
  split
  · rfl
  · next long => simp [ofDraw_below (by omega : 0 < line.length), ofDraw_between]

theorem ofDraw_swapDelimiter : ofDraw (swapDelimiter line) = swapDelimiter line := by
  have known : delimiters ≠ [] := by decide
  unfold swapDelimiter
  dsimp only
  split
  · rfl
  · next found => simp [ofDraw_pick found, ofDraw_pick known]

theorem ofDraw_glueTokens : ofDraw (glueTokens line) = glueTokens line := by
  unfold glueTokens
  dsimp only
  split
  · rfl
  · next found => simp [ofDraw_pick found]

theorem ofDraw_wrapToken : ofDraw (wrapToken line) = wrapToken line := by
  have known : wrappers ≠ [] := by decide
  have some : 0 < (line.splitOn ' ').length :=
    List.length_pos_iff.2 (List.splitOnP_ne_nil _ line)
  simp [wrapToken, ofDraw_below some, ofDraw_pick known]

theorem ofDraw_edgeRun (run : List Char) : ofDraw (edgeRun run) = edgeRun run := by
  simp [edgeRun, ofDraw_pick (by decide : int64Edges ≠ [])]

theorem ofDraw_edgeRuns : ofDraw (edgeRuns line) = edgeRuns line := by
  simp [edgeRuns, ofDraw_edgeRun]

theorem ofDraw_apply (kind : Mutation) : ofDraw (kind.apply line) = kind.apply line := by
  cases kind with
  | insertToken => exact ofDraw_insertToken line
  | dropSpan => exact ofDraw_dropSpan line
  | swapDelimiter => exact ofDraw_swapDelimiter line
  | glueTokens => exact ofDraw_glueTokens line
  | wrapToken => exact ofDraw_wrapToken line
  | edgeRuns => exact ofDraw_edgeRuns line

/-- No choice of a random change fails. -/
theorem ofDraw_mutate : ofDraw (mutate line) = mutate line := by
  simp [mutate, ofDraw_pick (by decide : Mutation.all ≠ []), ofDraw_apply]

theorem ofDraw_mutateTimes (n : Nat) : ofDraw (mutateTimes n line) = mutateTimes n line := by
  induction n generalizing line with
  | zero => rfl
  | succ n ih => simp [mutateTimes, ofDraw_mutate, ih]

/-! ## Choices from the corpus -/

/-- From a corpus that has a line the next one is made without failure. -/
theorem ofDraw_nextLine {corpus : List String} (nonempty : corpus ≠ []) :
    ofDraw (nextLine corpus) = nextLine corpus := by
  simp [nextLine, ofDraw_line, ofDraw_pick nonempty, ofDraw_between, ofDraw_mutateTimes]

/-- From a corpus with more lines than the seed corpus a line is taken without failure. -/
theorem ofDraw_evict {corpus : List String} (more : seedCorpus.length < corpus.length) :
    ofDraw (Campaign.evict corpus) = Campaign.evict corpus := by
  simp [Campaign.evict, ofDraw_within more]

end Attempt

end CommandLine.Fuzz
