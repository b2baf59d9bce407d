import CommandLine.Proofs.Fuzz.Attempt
import CommandLine.Proofs.Fuzz.Turns

/-!
# The corpus of a campaign

The corpus keeps the seed corpus in front, stays within its limit, and has no further lines but
some that were tried (`stocked_of_leadsTo`). A line that is rejected joins it like one that is
accepted, if it is short and the draw behind it says so. Only as long as this does not happen the
further lines are accepted lines and findings (`selective_iff`).
-/

namespace CommandLine.Fuzz.Campaign

variable {settings : Settings} {c d first next : Campaign} {line : String} {verdict : Verdict}
  {joined : Bool} {t : Turn} {source : Source} {clock : Clock} {corpus left : List String}
  {merit : String → Verdict → Prop}

/-! ## What the corpus has -/

/-- The lines of a corpus behind those of the seed corpus. -/
def furtherLines (c : Campaign) : List String := c.corpus.drop seedCorpus.length

/-- Further lines are there for a reason: they were tried, and the verdict was such that a line of
this kind may join. -/
def Warranted (merit : String → Verdict → Prop) (c : Campaign) : Prop :=
  ∀ line ∈ c.furtherLines, ∃ verdict, (line, verdict) ∈ c.tried ∧ merit line verdict

/-- What can be told of the corpus between any two turns. -/
structure Stocked (c : Campaign) : Prop where
  seeds : seedCorpus <+: c.corpus
  size : c.corpus.length ≤ corpusLimit
  further : Warranted (fun line verdict => verdict.isFinding = true ∨ line.length < longLine) c

theorem Takes.size (h : Takes line corpus left) (size : corpus.length ≤ corpusLimit) :
    left.length ≤ corpusLimit := by
  cases h with
  | behind room =>
    rw [List.length_append, List.length_singleton]
    omega
  | evicting full place noSeed inside =>
    rw [List.length_eraseIdx_of_lt inside, List.length_append, List.length_singleton]
    omega

/-- A line that joins a corpus leaves the lines at the front as they are. -/
theorem Takes.eq_append (h : Takes line corpus left) (seeds : seedCorpus <+: corpus) :
    ∃ further, left = seedCorpus ++ further ∧
      further.Sublist (corpus.drop seedCorpus.length ++ [line]) := by
  obtain ⟨behind, rfl⟩ := seeds
  rw [List.drop_left]
  cases h with
  | behind room => exact ⟨behind ++ [line], List.append_assoc _ _ _, .refl _⟩
  | evicting full place noSeed inside =>
    refine ⟨(behind ++ [line]).eraseIdx (place - seedCorpus.length), ?_, List.eraseIdx_sublist _ _⟩
    rw [List.append_assoc, List.eraseIdx_append_of_length_le noSeed]

/-- What a turn does to the corpus: the seed corpus stays in front, the size stays within the limit,
and a line that is new behind the seed corpus is the one that was tried. -/
theorem Tries.corpus_of (h : Tries settings c line verdict joined next)
    (seeds : seedCorpus <+: c.corpus) (size : c.corpus.length ≤ corpusLimit) :
    seedCorpus <+: next.corpus ∧ next.corpus.length ≤ corpusLimit ∧
      ∀ other ∈ next.furtherLines, other ∈ c.furtherLines ∨ other = line ∧ joined = true := by
  have corpus := h.corpus
  cases joined with
  | false =>
    have same : next.corpus = c.corpus := corpus
    rw [furtherLines, furtherLines, same]
    exact ⟨seeds, size, fun other => .inl⟩
  | true =>
    have takes : Takes line c.corpus next.corpus := corpus
    obtain ⟨further, left, sub⟩ := takes.eq_append seeds
    refine ⟨left ▸ List.prefix_append _ _, takes.size size, ?_⟩
    intro other mem
    rw [furtherLines, left, List.drop_left] at mem
    rcases List.mem_append.1 (sub.subset mem) with old | new
    · exact .inl old
    · exact .inr ⟨List.mem_singleton.1 new, rfl⟩

theorem Tries.warranted (h : Tries settings c line verdict joined next) (stocked : c.Stocked)
    (warranted : c.Warranted merit) (deserved : joined = true → merit line verdict) :
    next.Warranted merit := by
  intro other mem
  rw [h.tried]
  rcases (h.corpus_of stocked.seeds stocked.size).2.2 other mem with old | ⟨rfl, lucky⟩
  · obtain ⟨verdict, known, earned⟩ := warranted other old
    exact ⟨verdict, List.mem_cons_of_mem _ known, earned⟩
  · exact ⟨verdict, List.mem_cons_self, deserved lucky⟩

/-- A line joins the corpus if it was a finding, or if it is short and drawn. -/
theorem run_joins (line : String) (verdict : Verdict) (source : Source) :
    ((joins line verdict).run source).1 = true ↔
      verdict.isFinding = true ∨
        line.length < longLine ∧ ((Draw.chance 2 : Draw Bool).run source).1 = true := by
  unfold joins
  by_cases finding : verdict.isFinding = true
  · rw [if_pos finding]
    exact iff_of_true rfl (.inl finding)
  · rw [if_neg finding]
    by_cases short : line.length < longLine
    · rw [if_pos short]
      simp [finding, short]
    · rw [if_neg short]
      refine iff_of_false (by exact Bool.false_ne_true) ?_
      rintro (yes | ⟨yes, -⟩)
      · exact finding yes
      · exact short yes

theorem Tries.stocked (h : Tries settings c line verdict joined next) (stocked : c.Stocked) :
    next.Stocked := by
  obtain ⟨seeds, size, -⟩ := h.corpus_of stocked.seeds stocked.size
  refine ⟨seeds, size, h.warranted stocked stocked.further ?_⟩
  intro lucky
  rw [h.lot] at lucky
  rcases (run_joins _ _ _).1 lucky with finding | ⟨short, -⟩
  · exact .inl finding
  · exact .inr short

theorem Alike.warranted (h : c.Alike d) (warranted : c.Warranted merit) : d.Warranted merit := by
  unfold Warranted furtherLines
  rw [h.corpus, h.tried]
  exact warranted

theorem Alike.stocked (h : c.Alike d) (stocked : c.Stocked) : d.Stocked :=
  ⟨h.corpus ▸ stocked.seeds, h.corpus ▸ stocked.size, h.warranted stocked.further⟩

theorem furtherLines_begin (settings : Settings) (source : Source) (clock : Clock) :
    (begin settings source clock).furtherLines = [] := rfl

theorem warranted_begin (settings : Settings) (source : Source) (clock : Clock) :
    (begin settings source clock).Warranted merit := by
  unfold Warranted
  rw [furtherLines_begin]
  exact List.forall_mem_nil _

theorem stocked_begin (settings : Settings) (source : Source) (clock : Clock) :
    (begin settings source clock).Stocked := by
  have same : (begin settings source clock).corpus = seedCorpus := rfl
  refine ⟨List.prefix_refl _, ?_, warranted_begin settings source clock⟩
  rw [same]
  decide

theorem LeadsTo.stocked (h : LeadsTo settings (begin settings source clock) t) :
    t.campaign.Stocked := by
  refine h.preserves Stocked ?_ ?_ (stocked_begin settings source clock)
  · intro c d alike stocked
    exact alike.stocked stocked
  · intro c now line verdict joined next before tries stocked
    have same : c.Alike (c.withClock now) := ⟨rfl, rfl, rfl⟩
    exact tries.stocked (same.stocked stocked)

/-- Whatever the clock shows, whatever is drawn and however lines are judged: the corpus begins with
the seed corpus, stays within its limit, and has further lines for a reason only. It is never chosen
from where it has nothing to choose from. -/
theorem stocked_of_leadsTo (h : LeadsTo settings (begin settings source clock) t) :
    t.campaign.Stocked ∧
    Attempt.ofDraw (nextLine t.campaign.corpus) = nextLine t.campaign.corpus ∧
    ∀ line, corpusLimit < (t.campaign.corpus ++ [line]).length →
      Attempt.ofDraw (evict (t.campaign.corpus ++ [line])) =
        evict (t.campaign.corpus ++ [line]) := by
  have stocked := h.stocked
  have nonempty : t.campaign.corpus ≠ [] := by
    rintro none
    have seeds := stocked.seeds
    rw [none] at seeds
    exact absurd (List.prefix_nil.1 seeds) (by decide)
  refine ⟨stocked, Attempt.ofDraw_nextLine nonempty, ?_⟩
  intro line full
  exact Attempt.ofDraw_evict (Nat.lt_trans (by decide : seedCorpus.length < corpusLimit) full)

/-- A line of the seed corpus that breaks the parser joins the corpus, is drawn from there and joins
it once more. -/
theorem stocked_of_leadsTo_twice :
    let settings : Settings :=
      ⟨none, none, none, "findings", fun _ _ => .crashed ⟨"RecursionError", "too deep"⟩⟩
    let first := begin settings (.ofSeed 0 [2147483647, 1, 2147483647, 20])
      ⟨.zero false, .zero false⟩
    LeadsTo settings first (carryOn settings 2 first) ∧
      (carryOn settings 2 first).campaign.Stocked ∧
      (carryOn settings 2 first).campaign.furtherLines = ["1 2 -3 -3.5", "1 2 -3 -3.5"] := by
  intro settings first
  have reached := leadsTo_carryOn settings 2 first
  exact ⟨reached, (stocked_of_leadsTo reached).1, by decide +kernel⟩

/-! ## Which lines the corpus is chosen from -/

/-- The corpus is chosen from accepted lines and findings, and no turn adds a line that it finds
rejected. -/
structure Selective (settings : Settings) (first : Campaign) : Prop where
  further : ∀ t, LeadsTo settings first t →
    t.campaign.Warranted fun _ verdict => verdict = .accepted ∨ verdict.isFinding = true
  rejected : ∀ c now line joined next, LeadsTo settings first (.goOn c) →
    Tries settings (c.withClock now) line .rejected joined next → joined = false

/-- Whether a line that is rejected joins the corpus depends on its length and on a draw. -/
theorem Tries.joined_of_rejected (h : Tries settings c line .rejected joined next) :
    joined = true ↔
      line.length < longLine ∧ ((Draw.chance 2 : Draw Bool).run c.drawn.2).1 = true := by
  rw [h.lot, run_joins]
  exact or_iff_right Bool.false_ne_true

/-- The corpus is selective exactly if no line that is short and rejected is drawn for it. -/
theorem selective_iff (settings : Settings) (source : Source) (clock : Clock) :
    Selective settings (begin settings source clock) ↔
      ∀ c now line joined next, LeadsTo settings (begin settings source clock) (.goOn c) →
        Tries settings (c.withClock now) line .rejected joined next →
          ¬ (line.length < longLine ∧
            ((Draw.chance 2 : Draw Bool).run (c.withClock now).drawn.2).1 = true) := by
  constructor
  · intro selective c now line joined next before tries lucky
    have out := selective.rejected c now line joined next before tries
    exact Bool.false_ne_true (out.symm.trans (tries.joined_of_rejected.2 lucky))
  · intro unlucky
    refine ⟨?_, ?_⟩
    · intro t reached
      refine reached.preserves (Warranted _) (fun c d alike => alike.warranted) ?_
        (warranted_begin settings source clock)
      intro c now line verdict joined next before tries warranted
      have same : c.Alike (c.withClock now) := ⟨rfl, rfl, rfl⟩
      have stocked := same.stocked before.stocked
      refine tries.warranted stocked (same.warranted warranted) ?_
      intro joins
      -- The verdict that has no merit is the one that the hypothesis excludes.
      cases verdict with
      | accepted => exact .inl rfl
      | timedOut message => exact .inr rfl
      | crashed fault => exact .inr rfl
      | rejected =>
        have lucky := tries.joined_of_rejected.1 joins
        exact absurd lucky (unlucky c now line joined next before tries)
    · intro c now line joined next before tries
      have out := unlucky c now line joined next before tries
      exact Bool.eq_false_iff.2 (mt tries.joined_of_rejected.1 out)

/-- The line `-` is made, is rejected and joins the corpus in the first turn. -/
theorem not_selective_dash :
    let settings : Settings := ⟨none, some 2, none, "findings", fun _ => Verdict.ofLine⟩
    let first := begin settings
      (.ofSeed 0 [1073741824, 0, 0, 0, 0, 8, 0, 0, 0, 0, 0, 1, 0, 0, 0, 2040109466, 20, 2147483647])
      ⟨.ofInt 1000, .zero false⟩
    (carryOn settings 1 first).campaign.furtherLines = ["-"] ∧
      (carryOn settings 1 first).campaign.tried = [("-", .rejected)] ∧
      ¬ Selective settings first := by
  intro settings first
  have joined : (carryOn settings 1 first).campaign.furtherLines = ["-"] := by decide +kernel
  have tried : (carryOn settings 1 first).campaign.tried = [("-", .rejected)] := by decide +kernel
  refine ⟨joined, tried, ?_⟩
  intro selective
  obtain ⟨verdict, known, merit⟩ := selective.further _ (leadsTo_carryOn settings 1 first) "-"
    (by rw [joined]; exact List.mem_singleton.2 rfl)
  rw [tried, List.mem_singleton, Prod.mk.injEq] at known
  rw [known.2] at merit
  revert merit
  decide

end CommandLine.Fuzz.Campaign
