import CommandLine.Proofs.Fuzz.Accounting
import CommandLine.Proofs.Fuzz.Deadline

/-!
# Longer campaigns go on from shorter ones

Two campaigns that begin with the same source and may only try different numbers of lines try the
same lines as long as both go on. What differs between them, the clock and what was printed, has no
part in the choice of a line: every turn keeps campaigns `Together`. So a finding of a campaign is a
finding of every longer one (`run_forLines`).
-/

namespace CommandLine.Fuzz

/-- Settings for a number of lines, without a limit of time and without an interruption. -/
def Settings.forLines (settings : Settings) (limit : Int) : Settings :=
  { settings with duration := none, iterations := some limit, interruptAt := none }

namespace Campaign

/-- Two campaigns that may differ in what they read off the clock and in what they printed. -/
structure Together (c d : Campaign) : Prop where
  source : d.source = c.source
  corpus : d.corpus = c.corpus
  tried : d.tried = c.tried
  tally : d.notebook.tally = c.notebook.tally
  findings : d.notebook.findings = c.notebook.findings

variable {settings : Settings} {source : Source} {clock clock' : Clock} {c d e : Campaign}
  {n m : Int}

/-! ## What keeps campaigns together -/

theorem join_eq (c : Campaign) (line : String) :
    c.join line =
      if corpusLimit < (c.corpus ++ [line]).length then
        { c with
          corpus := ((evict (c.corpus ++ [line]) : Draw (List String)).run c.source).1
          source := ((evict (c.corpus ++ [line]) : Draw (List String)).run c.source).2 }
      else { c with corpus := c.corpus ++ [line] } := by
  unfold join
  rfl

theorem record_congr {b b' : Notebook} (tally : b'.tally = b.tally)
    (findings : b'.findings = b.findings) (directory line : String) (verdict : Verdict) :
    (b'.record directory line verdict).tally = (b.record directory line verdict).tally ∧
      (b'.record directory line verdict).findings =
        (b.record directory line verdict).findings := by
  unfold Notebook.record Notebook.keep
  rw [tally]
  dsimp only
  split
  · exact ⟨rfl, findings⟩
  · rw [findings]
    split
    · exact ⟨rfl, rfl⟩
    · exact ⟨rfl, rfl⟩

namespace Together

theorem symm (h : c.Together d) : d.Together c :=
  ⟨h.source.symm, h.corpus.symm, h.tried.symm, h.tally.symm, h.findings.symm⟩

theorem trans (h : c.Together d) (h' : d.Together e) : c.Together e :=
  ⟨h'.source.trans h.source, h'.corpus.trans h.corpus, h'.tried.trans h.tried,
    h'.tally.trans h.tally, h'.findings.trans h.findings⟩

theorem join (h : c.Together d) (line : String) : (c.join line).Together (d.join line) := by
  obtain ⟨source, corpus, tried, tally, findings⟩ := h
  rw [join_eq, join_eq, corpus, source]
  split
  · exact ⟨rfl, rfl, tried, tally, findings⟩
  · exact ⟨rfl, rfl, tried, tally, findings⟩

theorem noted (h : c.Together d) (line : String) :
    (c.noted (settings.forLines n) line).Together (d.noted (settings.forLines m) line) := by
  obtain ⟨source, corpus, tried, tally, findings⟩ := h
  obtain ⟨tally, findings⟩ := record_congr tally findings settings.directory line
    (settings.judge c.tried.length line)
  refine ⟨?_, corpus, ?_, ?_, ?_⟩
  · simp only [Campaign.noted, source, tried]
    rfl
  · simp only [Campaign.noted, tried]
    rfl
  · simp only [Campaign.noted, tried]
    exact tally
  · simp only [Campaign.noted, tried]
    exact findings

theorem tryLine (h : c.Together d) (line : String) :
    (c.tryLine (settings.forLines n) line).Together (d.tryLine (settings.forLines m) line) := by
  have noted : (c.noted (settings.forLines n) line).Together (d.noted (settings.forLines m) line) :=
    h.noted line
  rw [tryLine_eq, tryLine_eq, h.source, h.tried]
  have judge : (settings.forLines m).judge = (settings.forLines n).judge := rfl
  rw [judge]
  split
  · exact noted.join line
  · exact noted

end Together

theorem together_report (c : Campaign) : c.Together c.report := by
  unfold report
  split
  · exact ⟨rfl, rfl, rfl, rfl, rfl⟩
  · exact ⟨rfl, rfl, rfl, rfl, rfl⟩

/-! ## Turns without a deadline -/

theorem begun_of_no_deadline (timeless : c.deadline = none) :
    c.begun = { c with notebook := { c.notebook with tally := c.notebook.tally.begin } } := by
  rw [begun, hasTime_of_no_deadline timeless]

/-- Campaigns that are together draw the same line. -/
theorem Together.drawn (h : c.Together d) (timeless : c.deadline = none)
    (timeless' : d.deadline = none) : d.drawn = c.drawn :=
  Alike.drawn ⟨h.corpus, h.tried, timeless'.trans timeless.symm⟩ h.source

theorem Together.ready (h : c.Together d) (timeless : c.deadline = none)
    (timeless' : d.deadline = none) : c.ready.Together d.ready := by
  have drawn := h.drawn timeless timeless'
  refine ⟨?_, ?_, ?_, ?_, ?_⟩
  · show d.begun.drawn.2 = c.begun.drawn.2
    rw [drawn_begun, drawn_begun, drawn]
  · rw [d.alike_ready.corpus, c.alike_ready.corpus, h.corpus]
  · rw [d.alike_ready.tried, c.alike_ready.tried, h.tried]
  · simp only [Campaign.ready, begun_of_no_deadline timeless, begun_of_no_deadline timeless',
      h.tally]
  · simp only [Campaign.ready, begun_of_no_deadline timeless, begun_of_no_deadline timeless',
      h.findings]

theorem turn_of_few (timeless : c.deadline = none) (few : (c.notebook.tally.iterations : Int) < n) :
    c.turn (settings.forLines n) =
      .goOn (c.ready.tryLine (settings.forLines n) c.drawn.1).report := by
  have wanted : c.isEnough (settings.forLines n) = false := by
    simp [isEnough, Settings.forLines, few]
  have uninterrupted : (settings.forLines n).interruptAt = none := rfl
  rw [turn_eq, hasTime_of_no_deadline timeless, drawn_begun]
  simp [wanted, uninterrupted]

theorem turn_of_enough (timeless : c.deadline = none)
    (enough : n ≤ (c.notebook.tally.iterations : Int)) :
    c.turn (settings.forLines n) = .ended c := by
  have enough : c.isEnough (settings.forLines n) = true := by
    simp [isEnough, Settings.forLines, enough]
  rw [turn_eq, hasTime_of_no_deadline timeless]
  simp [enough]

/-- Campaigns that are together stay so in a turn, unless one of them has enough lines. -/
theorem Together.turn (h : c.Together d) (timeless : c.deadline = none)
    (timeless' : d.deadline = none) (few : (c.notebook.tally.iterations : Int) < n)
    (few' : (c.notebook.tally.iterations : Int) < m) :
    ∃ c' d', c.turn (settings.forLines n) = .goOn c' ∧ d.turn (settings.forLines m) = .goOn d' ∧
      c'.Together d' := by
  refine ⟨_, _, turn_of_few timeless few, turn_of_few timeless' (by rwa [h.tally]), ?_⟩
  rw [h.drawn timeless timeless']
  have tried : (c.ready.tryLine (settings.forLines n) c.drawn.1).Together
      (d.ready.tryLine (settings.forLines m) c.drawn.1) :=
    (h.ready timeless timeless').tryLine c.drawn.1
  exact (together_report _).symm.trans (tried.trans (together_report _))

/-! ## Runs without a deadline -/

/-- A campaign without a deadline that tried so many lines. -/
structure Untimed (settings : Settings) (count : Nat) (c : Campaign) : Prop where
  timeless : c.deadline = none
  balanced : c.Balanced settings 0
  tried : c.tried.length = count

theorem Untimed.iterations {count : Nat} (h : c.Untimed settings count) :
    c.notebook.tally.iterations = count := by
  rw [h.balanced.iterations, h.tried, Nat.add_zero]

theorem untimed_begin (settings : Settings) (source : Source) (clock : Clock) (n : Int) :
    (begin (settings.forLines n) source clock).Untimed (settings.forLines n) 0 :=
  ⟨rfl, balanced_begin _ source clock, rfl⟩

theorem Untimed.turn {count : Nat} (h : c.Untimed settings count)
    (next : c.turn settings = .goOn d) : d.Untimed settings (count + 1) := by
  have balanced := h.balanced.turn
  have comes := turn_comes settings c
  rw [next] at balanced comes
  cases comes with
  | goOn tries =>
    refine ⟨tries.deadline.trans h.timeless, balanced, ?_⟩
    rw [tries.tried, List.length_cons, h.tried]

/-- Two campaigns are together as long as both want lines. -/
theorem together_carryOn (settings : Settings) (source : Source) (clock clock' : Clock)
    (count : Nat) (few : count ≤ n.toNat) (few' : count ≤ m.toNat) :
    ∃ c d,
      carryOn (settings.forLines n) count (begin (settings.forLines n) source clock) = .goOn c ∧
      carryOn (settings.forLines m) count (begin (settings.forLines m) source clock') = .goOn d ∧
      c.Together d ∧ c.Untimed (settings.forLines n) count ∧
      d.Untimed (settings.forLines m) count := by
  induction count with
  | zero =>
    exact ⟨_, _, rfl, rfl, ⟨rfl, rfl, rfl, rfl, rfl⟩, untimed_begin _ _ _ _, untimed_begin _ _ _ _⟩
  | succ count ih =>
    obtain ⟨c, d, here, there, together, untimed, untimed'⟩ := ih (by omega) (by omega)
    have iterations := untimed.iterations
    obtain ⟨c', d', next, next', together⟩ : ∃ c' d', c.turn (settings.forLines n) = .goOn c' ∧
        d.turn (settings.forLines m) = .goOn d' ∧ c'.Together d' :=
      together.turn untimed.timeless untimed'.timeless (by omega) (by omega)
    refine ⟨c', d', ?_, ?_, together, untimed.turn next, untimed'.turn next'⟩
    · rw [carryOn_succ, here]
      exact next
    · rw [carryOn_succ, there]
      exact next'

theorem carryOn_add {count : Nat} (here : carryOn settings count c = .goOn d) (further : Nat) :
    carryOn settings (count + further) c = carryOn settings further d := by
  induction further with
  | zero => exact here
  | succ further ih => rw [← Nat.add_assoc, carryOn_succ, carryOn_succ, ih]

/-- Behind its end a campaign stays as it is. -/
theorem carryOn_of_ended {count turns : Nat}
    (ended : carryOn settings count c = .ended d) (more : count ≤ turns) :
    carryOn settings turns c = .ended d := by
  obtain ⟨further, rfl⟩ := Nat.exists_eq_add_of_le more
  induction further with
  | zero => exact ended
  | succ further ih => rw [← Nat.add_assoc, carryOn_succ, ih (by omega), Turn.more]

/-- A campaign ends as soon as enough lines are tried. -/
theorem carryOn_of_enough {turns : Nat}
    (last : carryOn (settings.forLines n) n.toNat d = .goOn c)
    (untimed : c.Untimed (settings.forLines n) n.toNat) (enough : n.toNat < turns) :
    carryOn (settings.forLines n) turns d = .ended c := by
  have iterations := untimed.iterations
  have ended : carryOn (settings.forLines n) (n.toNat + 1) d = .ended c := by
    rw [carryOn_succ, last]
    exact turn_of_enough untimed.timeless (by omega)
  exact carryOn_of_ended ended enough

/-- Lines that were tried stay tried, in their order. -/
theorem LeadsTo.tried_suffix {t : Turn} (h : LeadsTo settings c t) :
    c.tried <:+ t.campaign.tried := by
  refine h.preserves (fun d => c.tried <:+ d.tried) ?_ ?_ List.suffix_rfl
  · intro d e alike kept
    rw [alike.tried]
    exact kept
  · intro d now line verdict joined next before tries kept
    rw [tries.tried]
    exact kept.trans (List.suffix_cons _ _)

end Campaign

theorem firstFinding?_of_suffix {digest : String} {entry : String × Verdict}
    {tried more : List (String × Verdict)} (longer : tried <:+ more)
    (first : firstFinding? digest tried = some entry) : firstFinding? digest more = some entry := by
  obtain ⟨later, rfl⟩ := longer
  have found : tried.reverse.find? (fun entry => entry.2.isFinding &&
      Digest.shortName entry.1 == digest) = some entry := first
  rw [firstFinding?, List.reverse_append, List.find?_append, found, Option.some_or]

/-- Findings stay findings, as they were kept. -/
theorem Kept.of_suffix {findings findings' : List Finding} {tried more : List (String × Verdict)}
    (kept : Kept findings tried) (kept' : Kept findings' more) (longer : tried <:+ more) :
    ∀ f ∈ findings, f ∈ findings' := by
  intro f member
  obtain ⟨verdict, first, category, fault⟩ := (kept.first f).1 member
  exact (kept'.first f).2 ⟨verdict, firstFinding?_of_suffix longer first, category, fault⟩

namespace Campaign

/-- A longer campaign goes on from a shorter one, whatever the clocks show: both end when they have
their lines, the shorter one as the longer one is behind as many lines. What the shorter one found
the longer one finds. -/
theorem run_forLines (settings : Settings) (source : Source) (clock clock' : Clock) {n m : Int}
    (longer : n ≤ m) {turns turns' : Nat} (enough : n.toNat < turns) (enough' : m.toNat < turns') :
    let short := run (settings.forLines n) source clock turns
    let long := run (settings.forLines m) source clock' turns'
    let atEnd := carryOn (settings.forLines n) turns (begin (settings.forLines n) source clock)
    let atEnd' := carryOn (settings.forLines m) turns' (begin (settings.forLines m) source clock')
    (∃ c d, atEnd = .ended c ∧ atEnd' = .ended d) ∧
    (short.tried.length = n.toNat ∧ long.tried.length = m.toNat ∧
      short.tried.reverse = long.tried.reverse.take n.toNat) ∧
    (∃ c, carryOn (settings.forLines m) n.toNat (begin (settings.forLines m) source clock') =
        .goOn c ∧ c.tried = short.tried ∧ c.notebook.tally = short.notebook.tally ∧
        c.notebook.findings = short.notebook.findings) ∧
    ∀ f ∈ short.notebook.findings, f ∈ long.notebook.findings := by
  intro short long atEnd atEnd'
  have less : n.toNat ≤ m.toNat := by omega
  -- Both behind the lines of the shorter one, then the longer one behind its own.
  obtain ⟨c, d, last, within, together, untimed, -⟩ :=
    together_carryOn settings source clock clock' n.toNat (Nat.le_refl _) less
  obtain ⟨-, e, -, last', -, -, untimed'⟩ :=
    together_carryOn settings source clock clock' m.toNat (Nat.le_refl _) (Nat.le_refl _)
  have ended : atEnd = .ended c := carryOn_of_enough last untimed enough
  have ended' : atEnd' = .ended e := carryOn_of_enough last' untimed' enough'
  have short_eq : short = c.finish := congrArg Turn.close ended
  have long_eq : long = e.finish := congrArg Turn.close ended'
  have leads : LeadsTo (settings.forLines m) d (.goOn e) := by
    rw [← last', ← Nat.add_sub_cancel' less, carryOn_add within]
    exact leadsTo_carryOn _ _ d
  have suffix' : c.tried <:+ e.tried := together.tried ▸ leads.tried_suffix
  rw [short_eq, long_eq]
  refine ⟨⟨c, e, ended, ended'⟩, ⟨untimed.tried, untimed'.tried, ?_⟩, ?_, ?_⟩
  · have front := List.prefix_iff_eq_take.1 (List.reverse_prefix.2 suffix')
    rwa [List.length_reverse, untimed.tried] at front
  · exact ⟨d, within, together.tried, together.tally, together.findings⟩
  · exact untimed.balanced.kept.of_suffix untimed'.balanced.kept suffix'

/-- A line that breaks the parser is found by a campaign of one line, and by one of two lines whose
clock goes on. -/
theorem run_forLines_twice :
    let settings : Settings :=
      ⟨none, none, none, "findings", fun _ _ => .crashed ⟨"RecursionError", "too deep"⟩⟩
    let source := Source.ofSeed 0 [2147483647, 1, 2147483647, 20]
    let short := run (settings.forLines 1) source ⟨.zero false, .zero false⟩ 2
    let long := run (settings.forLines 2) source ⟨.ofInt 1000, .ofInt 1⟩ 3
    short.tried.map Prod.fst = ["1 2 -3 -3.5"] ∧ short.digests.length = 1 ∧
      short.tried.reverse = long.tried.reverse.take 1 ∧
      ∀ f ∈ short.notebook.findings, f ∈ long.notebook.findings := by
  intro settings source short long
  obtain ⟨-, ⟨-, -, first⟩, -, found⟩ := run_forLines settings source ⟨.zero false, .zero false⟩
    ⟨.ofInt 1000, .ofInt 1⟩ (n := 1) (m := 2) (by decide) (by decide : _ < 2) (by decide : _ < 3)
  exact ⟨by decide +kernel, by decide +kernel, first, found⟩

end Campaign

end CommandLine.Fuzz
