import CommandLine.Proofs.Fuzz.Turns
import Mathlib.Tactic.ByContra

/-!
# The time of a campaign

A duration that is not zero is kept to: a line is taken up only if the clock, which is read just
before it, shows a moment before the deadline. A duration of zero is no limit, so that a line is
taken up whatever the clock shows, unless no line is wanted at all (`punctual_iff`).
-/

namespace CommandLine

theorem Double.less_self (x : Double) : x.less x = false := by
  unfold Double.less
  cases x.key? with
  | none => rfl
  | some place => simp

namespace Fuzz.Campaign

variable {settings : Settings} {c first : Campaign} {t : Turn} {source : Source} {clock : Clock}
  {minutes : Double}

/-- Whether a turn takes up a line: all turns do but the one that ends the campaign. -/
def Turn.takesLine : Turn → Bool
  | ended _ => false
  | interrupted _ => true
  | goOn _ => true

/-- A turn begins with a look at the clock, which shows a moment that is not yet so many minutes
behind the start. -/
structure Timely (start minutes : Double) (c : Campaign) : Prop where
  looked : c.hasTime.2 = c.readClock.2
  early : c.readClock.1.less (start.add (minutes.mul (.ofInt 60))) = true

/-- A campaign of so many minutes takes up lines in time only, whatever the clock shows before each
turn. -/
def Punctual (settings : Settings) (source : Source) (clock : Clock) (minutes : Double) : Prop :=
  ∀ c, LeadsTo settings (begin settings source clock) (.goOn c) → ∀ now : Clock,
    ((c.withClock now).turn settings).takesLine = true →
      Timely clock.reading minutes (c.withClock now)

/-- A line is taken up exactly if there is time left and not enough lines were tried. -/
theorem takesLine_turn (settings : Settings) (c : Campaign) :
    (c.turn settings).takesLine = true ↔ c.hasTime.1 = true ∧ c.isEnough settings = false := by
  have comes := turn_comes settings c
  generalize c.turn settings = t at comes
  cases comes with
  | ended finished =>
    constructor
    · intro takes
      cases takes
    · rintro ⟨inTime, wanted⟩
      rcases finished with late | enough
      · simp [inTime] at late
      · simp [wanted] at enough
  | interrupted inTime wanted alike => exact iff_of_true rfl ⟨inTime, wanted⟩
  | goOn tries => exact iff_of_true rfl ⟨tries.inTime, tries.wanted⟩

/-- The deadline stays where it was set at the beginning. -/
theorem LeadsTo.deadline_eq (h : LeadsTo settings first t) :
    t.campaign.deadline = first.deadline := by
  refine h.preserves (fun c => c.deadline = first.deadline) ?_ ?_ rfl
  · intro c d alike kept
    rw [alike.deadline, kept]
  · intro c now line verdict joined next before tries kept
    rw [tries.deadline]
    exact kept

/-- Where there is a deadline, time is left as long as the clock shows less. -/
theorem hasTime_of_deadline {deadline : Double} (h : c.deadline = some deadline) :
    c.hasTime = (c.readClock.1.less deadline, c.readClock.2) := by
  unfold hasTime
  rw [h]

theorem hasTime_of_no_deadline (h : c.deadline = none) : c.hasTime = (true, c) := by
  unfold hasTime
  rw [h]

/-- No line is wanted at all, if the number of lines to try is not positive. -/
theorem isEnough_of_nonpos (settings : Settings) {limit : Int}
    (h : settings.iterations = some limit) (nonpos : limit ≤ 0) (c : Campaign) :
    c.isEnough settings = true := by
  unfold isEnough
  rw [h]
  simp only [decide_eq_true_eq]
  omega

theorem isEnough_begin (settings : Settings)
    (h : ¬ ∃ limit ≤ 0, settings.iterations = some limit) (now : Clock) :
    ((begin settings source clock).withClock now).isEnough settings = false := by
  unfold isEnough
  cases given : settings.iterations with
  | none => rfl
  | some limit =>
    have positive : ¬ limit ≤ 0 := by
      intro nonpos
      exact h ⟨limit, nonpos, given⟩
    have none : ((begin settings source clock).withClock now).notebook.tally.iterations = 0 := rfl
    simp [none, positive]

/-- Lines are taken up in time only, unless the duration is zero and some line is wanted. -/
theorem punctual_iff (settings : Settings) (source : Source) (clock : Clock) (minutes : Double) :
    Punctual { settings with duration := some minutes } source clock minutes ↔
      minutes.sameAs (.zero false) = false ∨ ∃ limit ≤ 0, settings.iterations = some limit := by
  let limited : Settings := { settings with duration := some minutes }
  let due := clock.reading.add (minutes.mul (.ofInt 60))
  have set : (begin limited source clock).deadline =
      if minutes.sameAs (.zero false) then none else some due := rfl
  constructor
  · intro punctual
    by_contra none
    obtain ⟨zero, wanted⟩ := not_or.1 none
    rw [if_pos (by simpa using zero)] at set
    -- The first line is taken up though the clock shows that the time is over.
    let now : Clock := ⟨due, .zero false⟩
    have inTime := hasTime_of_no_deadline (c := (begin limited source clock).withClock now) set
    have takes := (takesLine_turn limited ((begin limited source clock).withClock now)).2
      ⟨by rw [inTime], isEnough_begin limited wanted now⟩
    have early := (punctual _ .start now takes).early
    have late : due.less due = false := due.less_self
    exact absurd (early.symm.trans late) (by decide)
  · intro limits c before now takes
    obtain ⟨inTime, wanted⟩ := (takesLine_turn _ _).1 takes
    rcases limits with given | ⟨limit, nonpos, given⟩
    · rw [if_neg (by simp [given])] at set
      have deadline : (c.withClock now).deadline = some due := before.deadline_eq.trans set
      have looked := hasTime_of_deadline deadline
      rw [looked] at inTime
      exact ⟨by rw [looked], inTime⟩
    · have enough := isEnough_of_nonpos limited given nonpos (c.withClock now)
      exact absurd (wanted.symm.trans enough) (by decide)

/-- With a duration of zero the one line that is wanted is tried, though the clock stands still at
the start. -/
theorem not_punctual_zero :
    let settings : Settings :=
      ⟨some (.zero false), some 1, none, "findings", fun _ => Verdict.ofLine⟩
    let clock : Clock := ⟨.ofInt 1000, .zero false⟩
    (run settings (.ofSeed 0 []) clock 2).tried.length = 1 ∧
      ¬ Punctual settings (.ofSeed 0 []) clock (.zero false) := by
  intro settings clock
  refine ⟨by decide +kernel, ?_⟩
  intro punctual
  have takes : (((begin settings (.ofSeed 0 []) clock).withClock clock).turn settings).takesLine =
      true := by decide +kernel
  have early := (punctual _ .start clock takes).early
  exact absurd early (by decide +kernel)

end Fuzz.Campaign

end CommandLine
