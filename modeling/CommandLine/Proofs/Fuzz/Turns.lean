import CommandLine.Fuzz.Campaign
import CommandLine.Proofs.Fuzz.Draw

/-!
# Turns of a campaign

What one turn comes to (`turn_comes`), and what a number of turns leads to if the clock may show
anything before each of them (`LeadsTo`). A clock that goes on by a fixed step is one case of this
(`leadsTo_carryOn`).
-/

namespace CommandLine.Fuzz.Campaign

/-! ## What single steps leave as it is -/

@[simp]
theorem draw_notebook {α : Type} (c : Campaign) (d : Draw α) :
    (c.draw d).2.notebook = c.notebook := rfl

@[simp]
theorem draw_tried {α : Type} (c : Campaign) (d : Draw α) : (c.draw d).2.tried = c.tried := rfl

@[simp]
theorem join_notebook (c : Campaign) (line : String) : (c.join line).notebook = c.notebook := by
  unfold join
  dsimp only
  split <;> rfl

@[simp]
theorem join_tried (c : Campaign) (line : String) : (c.join line).tried = c.tried := by
  unfold join
  dsimp only
  split <;> rfl

@[simp]
theorem hasTime_notebook (c : Campaign) : c.hasTime.2.notebook = c.notebook := by
  unfold hasTime
  split <;> rfl

@[simp]
theorem hasTime_tried (c : Campaign) : c.hasTime.2.tried = c.tried := by
  unfold hasTime
  split <;> rfl

/-! ## Lines that join the corpus -/

/-- What becomes of a corpus that a line joins. The line is put behind the others; if these were as
many as a corpus may have, one line that is not of the seed corpus is taken out. -/
inductive Takes (line : String) (corpus : List String) : List String → Prop where
  | behind (room : corpus.length < corpusLimit) : Takes line corpus (corpus ++ [line])
  | evicting (full : corpusLimit ≤ corpus.length) (place : Nat)
      (noSeed : seedCorpus.length ≤ place) (inside : place < (corpus ++ [line]).length) :
      Takes line corpus ((corpus ++ [line]).eraseIdx place)

theorem takes_join (c : Campaign) (line : String) : Takes line c.corpus (c.join line).corpus := by
  unfold join
  dsimp only
  split
  · next full =>
    have seeds : seedCorpus.length < (c.corpus ++ [line]).length :=
      Nat.lt_trans (by decide : seedCorpus.length < corpusLimit) full
    obtain ⟨noSeed, inside⟩ := Draw.yields_within seeds c.source
    rw [List.length_append, List.length_singleton] at full
    exact .evicting (by omega) _ noSeed inside
  · next room =>
    rw [List.length_append, List.length_singleton] at room
    exact .behind (by omega)

/-! ## One turn -/

/-- The line that is drawn from the corpus of a campaign, and the source behind it. -/
def drawn (c : Campaign) : String × Source :=
  ((nextLine c.corpus : Draw (List Char)).run c.source).map String.ofList id

/-- Two campaigns that may differ in their clock, their source and their notebook. -/
structure Alike (c d : Campaign) : Prop where
  corpus : d.corpus = c.corpus
  tried : d.tried = c.tried
  deadline : d.deadline = c.deadline

/-- A turn that tries a line. There is time left, not enough lines were tried, and the line joins
the corpus or does not, as the source has it behind the draws that made the line. -/
structure Tries (settings : Settings) (c : Campaign) (line : String) (verdict : Verdict)
    (joined : Bool) (next : Campaign) : Prop where
  inTime : c.hasTime.1 = true
  wanted : c.isEnough settings = false
  made : line = c.drawn.1
  judged : verdict = settings.judge c.tried.length line
  lot : joined = ((joins line verdict).run c.drawn.2).1
  tried : next.tried = (line, verdict) :: c.tried
  corpus : if joined then Takes line c.corpus next.corpus else next.corpus = c.corpus
  deadline : next.deadline = c.deadline

/-- What becomes of a campaign in a turn: it ends, someone interrupts it, or a line is tried. -/
inductive Comes (settings : Settings) (c : Campaign) : Turn → Prop where
  | ended (finished : c.hasTime.1 = false ∨ c.isEnough settings = true) :
    Comes settings c (.ended c.hasTime.2)
  | interrupted {next : Campaign} (inTime : c.hasTime.1 = true)
      (wanted : c.isEnough settings = false) (alike : c.Alike next) :
      Comes settings c (.interrupted next)
  | goOn {line : String} {verdict : Verdict} {joined : Bool} {next : Campaign}
      (tries : Tries settings c line verdict joined next) : Comes settings c (.goOn next)

variable {settings : Settings} {c d first next : Campaign} {line : String} {verdict : Verdict}
  {joined : Bool} {t : Turn}

theorem alike_hasTime (c : Campaign) : c.Alike c.hasTime.2 := by
  unfold hasTime
  split
  · exact ⟨rfl, rfl, rfl⟩
  · exact ⟨rfl, rfl, rfl⟩

theorem alike_report (c : Campaign) : c.Alike c.report := by
  unfold report
  split
  · exact ⟨rfl, rfl, rfl⟩
  · exact ⟨rfl, rfl, rfl⟩

theorem hasTime_source (c : Campaign) : c.hasTime.2.source = c.source := by
  unfold hasTime
  split <;> rfl

@[simp]
theorem hasTime_isEnough (c : Campaign) : c.hasTime.2.isEnough settings = c.isEnough settings := by
  unfold isEnough
  rw [hasTime_notebook]

theorem Alike.drawn (h : c.Alike d) (source : d.source = c.source) : d.drawn = c.drawn := by
  rw [Campaign.drawn, Campaign.drawn, h.corpus, source]

theorem join_deadline (c : Campaign) (line : String) : (c.join line).deadline = c.deadline := by
  unfold join
  dsimp only
  split <;> rfl

/-- A campaign that noted the verdict on a line and drew whether the line joins the corpus. -/
def noted (settings : Settings) (c : Campaign) (line : String) : Campaign :=
  let verdict := settings.judge c.tried.length line
  { c with
    source := ((joins line verdict).run c.source).2
    tried := (line, verdict) :: c.tried
    notebook := c.notebook.record settings.directory line verdict }

theorem tryLine_eq (settings : Settings) (c : Campaign) (line : String) :
    c.tryLine settings line =
      if ((joins line (settings.judge c.tried.length line)).run c.source).1 then
        (c.noted settings line).join line
      else c.noted settings line := rfl

theorem tryLine_tried (settings : Settings) (c : Campaign) (line : String) :
    (c.tryLine settings line).tried = (line, settings.judge c.tried.length line) :: c.tried := by
  rw [tryLine_eq]
  split
  · rw [join_tried]
    rfl
  · rfl

theorem tryLine_deadline (settings : Settings) (c : Campaign) (line : String) :
    (c.tryLine settings line).deadline = c.deadline := by
  rw [tryLine_eq]
  split
  · rw [join_deadline]
    rfl
  · rfl

theorem tryLine_corpus (settings : Settings) (c : Campaign) (line : String) :
    if ((joins line (settings.judge c.tried.length line)).run c.source).1 then
      Takes line c.corpus (c.tryLine settings line).corpus
    else (c.tryLine settings line).corpus = c.corpus := by
  rw [tryLine_eq]
  split
  · exact takes_join (c.noted settings line) line
  · rfl

/-- A campaign that looked at the clock and counted a try of which it has no line yet. -/
def begun (c : Campaign) : Campaign :=
  { c.hasTime.2 with
    notebook := { c.hasTime.2.notebook with tally := c.hasTime.2.notebook.tally.begin } }

/-- The same campaign behind the draws that make the line. -/
def ready (c : Campaign) : Campaign := { c.begun with source := c.begun.drawn.2 }

theorem turn_eq (settings : Settings) (c : Campaign) :
    c.turn settings =
      if !c.hasTime.1 then .ended c.hasTime.2
      else if c.hasTime.2.isEnough settings then .ended c.hasTime.2
      else if settings.interruptAt = some c.ready.tried.length then .interrupted c.ready
      else .goOn (c.ready.tryLine settings c.begun.drawn.1).report := rfl

theorem alike_ready (c : Campaign) : c.Alike c.ready :=
  ⟨c.alike_hasTime.corpus, c.alike_hasTime.tried, c.alike_hasTime.deadline⟩

theorem drawn_begun (c : Campaign) : c.begun.drawn = c.drawn :=
  Alike.drawn ⟨c.alike_ready.corpus, c.alike_ready.tried, c.alike_ready.deadline⟩ c.hasTime_source

/-- What a turn does that goes on. -/
theorem tries_tryLine (inTime : c.hasTime.1 = true) (wanted : c.isEnough settings = false) :
    ∃ verdict joined, Tries settings c c.drawn.1 verdict joined
      (c.ready.tryLine settings c.begun.drawn.1).report := by
  have alike := c.alike_ready
  have source : c.ready.source = c.drawn.2 := congrArg Prod.snd c.drawn_begun
  have reported := (c.ready.tryLine settings c.drawn.1).alike_report
  have corpus := tryLine_corpus settings c.ready c.drawn.1
  rw [alike.tried, alike.corpus, source] at corpus
  rw [drawn_begun]
  refine ⟨_, _, inTime, wanted, rfl, rfl, rfl, ?_, ?_, ?_⟩
  · rw [reported.tried, tryLine_tried, alike.tried]
  · rwa [reported.corpus]
  · rw [reported.deadline, tryLine_deadline, alike.deadline]

/-- A turn comes to one of three things. -/
theorem turn_comes (settings : Settings) (c : Campaign) : Comes settings c (c.turn settings) := by
  rw [turn_eq]
  by_cases inTime : c.hasTime.1 = true
  · by_cases enough : c.isEnough settings = true
    · have enough' : c.hasTime.2.isEnough settings = true := by rwa [hasTime_isEnough]
      rw [if_neg (by simp [inTime]), if_pos enough']
      exact .ended (.inr enough)
    · have wanted : c.isEnough settings = false := by simpa using enough
      have more : ¬ c.hasTime.2.isEnough settings = true := by rwa [hasTime_isEnough]
      rw [if_neg (by simp [inTime]), if_neg more]
      split
      · exact .interrupted inTime wanted c.alike_ready
      · obtain ⟨verdict, joined, tries⟩ := tries_tryLine inTime wanted
        exact .goOn tries
  · rw [if_pos (by simpa using inTime)]
    exact .ended (.inl (by simpa using inTime))

/-! ## Any number of turns -/

namespace Turn

/-- Whether a turn was interrupted. -/
def isInterrupted : Turn → Bool
  | interrupted _ => true
  | _ => false

/-- The campaign behind a turn. -/
def campaign : Turn → Campaign
  | ended c => c
  | interrupted c => c
  | goOn c => c

end Turn

/-- A campaign with another clock. -/
def withClock (c : Campaign) (clock : Clock) : Campaign := { c with clock }

/-- What turns lead to that begin with a campaign. The clock may show anything before each turn. -/
inductive LeadsTo (settings : Settings) (first : Campaign) : Turn → Prop where
  | start : LeadsTo settings first (.goOn first)
  | turn {c : Campaign} (before : LeadsTo settings first (.goOn c)) (now : Clock) :
    LeadsTo settings first ((c.withClock now).turn settings)

/-- One turn more, if the campaign goes on. -/
def Turn.more (settings : Settings) : Turn → Turn
  | ended c => ended c
  | interrupted c => interrupted c
  | goOn c => c.turn settings

theorem carryOn_succ (settings : Settings) (turns : Nat) (c : Campaign) :
    carryOn settings (turns + 1) c = (carryOn settings turns c).more settings := by
  induction turns generalizing c with
  | zero =>
    show carryOn settings 1 c = c.turn settings
    simp only [carryOn]
    cases c.turn settings <;> rfl
  | succ turns ih =>
    rw [carryOn, carryOn]
    cases c.turn settings with
    | goOn next => exact ih next
    | ended next => rfl
    | interrupted next => rfl

/-- The clock of a campaign may go on by itself. -/
theorem leadsTo_carryOn (settings : Settings) (turns : Nat) (c : Campaign) :
    LeadsTo settings c (carryOn settings turns c) := by
  induction turns with
  | zero => exact .start
  | succ turns ih =>
    rw [carryOn_succ]
    generalize carryOn settings turns c = t at ih
    cases t with
    | goOn next => exact .turn ih next.clock
    | ended next => exact ih
    | interrupted next => exact ih

/-- What all turns keep. It may not depend on what a campaign has besides its corpus, the lines that
were tried and the moment at which it is over. -/
theorem LeadsTo.preserves (inv : Campaign → Prop) (aside : ∀ c d, c.Alike d → inv c → inv d)
    (step : ∀ c now line verdict joined next, LeadsTo settings first (.goOn c) →
      Tries settings (c.withClock now) line verdict joined next → inv c → inv next)
    (start : inv first) (h : LeadsTo settings first t) : inv t.campaign := by
  induction h with
  | start => exact start
  | @turn c before now ih =>
    have alike : c.Alike (c.withClock now) := ⟨rfl, rfl, rfl⟩
    have kept := aside _ _ alike ih
    have comes := turn_comes settings (c.withClock now)
    generalize (c.withClock now).turn settings = t at comes
    cases comes with
    | ended finished => exact aside _ _ (alike_hasTime _) kept
    | interrupted inTime wanted same => exact aside _ _ same kept
    | goOn tries => exact step c now _ _ _ _ before tries ih

end CommandLine.Fuzz.Campaign
