import CommandLine.Proofs.Fuzz.Keeping
import CommandLine.Proofs.Fuzz.Turns
import Mathlib.Data.List.Basic

/-!
# The accounts of a campaign

The notebook of a campaign agrees with the lines that were tried, after every turn and so at the
end (`Balanced.turn`, `LeadsTo.balanced`, `Turn.Balanced.close`). An interrupted try is counted as a
try and as nothing else. What follows for the counts, the files and the notices is `Accounted`.
-/

namespace CommandLine.Fuzz

namespace Campaign

variable {settings : Settings} {c : Campaign} {pending : Nat}

/-- The notebook of a campaign agrees with the lines that it tried. -/
def Balanced (settings : Settings) (pending : Nat) (c : Campaign) : Prop :=
  c.notebook.Balanced settings.directory pending c.tried

theorem Balanced.print (h : c.Balanced settings pending) {text : String}
    (plain : Plain settings.directory text) : (c.print text).Balanced settings pending :=
  Notebook.Balanced.print h plain

theorem Balanced.printTally (h : c.Balanced settings pending) :
    c.printTally.Balanced settings pending :=
  Notebook.Balanced.print h (plain_tally _ _ _)

theorem Balanced.finish (h : c.Balanced settings pending) :
    c.finish.Balanced settings pending :=
  (h.print (plain_heading _)).printTally

theorem balanced_begin (settings : Settings) (source : Source) (clock : Clock) :
    (begin settings source clock).Balanced settings 0 :=
  (Notebook.balanced_empty _).print (plain_beginning _ _)

theorem Balanced.tryLine (h : c.Balanced settings 1) (line : String) :
    (c.tryLine settings line).Balanced settings 0 := by
  have recorded := h.record line (settings.judge c.tried.length line)
  unfold Campaign.tryLine
  dsimp only
  split
  · simpa [Balanced] using recorded
  · exact recorded

theorem Balanced.report (h : c.Balanced settings pending) :
    c.report.Balanced settings pending := by
  unfold Campaign.report
  split
  · exact h.printTally
  · exact h

namespace Turn

/-- The notebook agrees with the lines that were tried; an interrupted try has no verdict. -/
def Balanced (settings : Settings) (t : Turn) : Prop :=
  t.campaign.Balanced settings t.isInterrupted.toNat

theorem Balanced.close {t : Turn} (h : t.Balanced settings) :
    t.close.Balanced settings t.isInterrupted.toNat := by
  cases t with
  | ended c => exact Campaign.Balanced.finish h
  | goOn c => exact Campaign.Balanced.finish h
  | interrupted c => exact (Campaign.Balanced.print h (plain_interruption _)).finish

end Turn

theorem Balanced.turn (h : c.Balanced settings 0) : (c.turn settings).Balanced settings := by
  have looked : c.hasTime.2.Balanced settings 0 := by simpa [Balanced] using h
  unfold Campaign.turn
  dsimp only
  split
  · exact looked
  · split
    · exact looked
    · -- The try is counted before its line is made, so an interruption finds it counted.
      have begun : Balanced settings 1 { c.hasTime.2 with
          notebook := { c.hasTime.2.notebook with tally := c.hasTime.2.notebook.tally.begin } } :=
        Notebook.Balanced.begin looked
      split
      · exact begun
      · exact (Balanced.tryLine (c := (draw _ _).2) begun _).report

/-- No number of turns unbalances the books, whatever the clock shows before each of them. -/
theorem LeadsTo.balanced {first : Campaign} {t : Turn} (h : LeadsTo settings first t)
    (start : first.Balanced settings 0) : t.Balanced settings := by
  induction h with
  | start => exact start
  | turn before now ih => exact Balanced.turn ih

/-! ## Files -/

/-- The digests of the findings that a campaign keeps. -/
def digests (c : Campaign) : List String := c.notebook.findings.map Finding.digest

/-- The names of the files that a campaign leaves. -/
def fileNames (c : Campaign) : List String := c.notebook.files.map Prod.fst

theorem fileNames_perm (c : Campaign) :
    c.fileNames.Perm (c.notebook.findings.map Finding.fileName) := by
  have sorted := (List.mergeSort_perm (c.notebook.findings.map fun f => (f.fileName, f.fileLines))
    fun x y => decide (x.1 ≤ y.1)).map Prod.fst
  simpa [fileNames, Notebook.files, Function.comp_def] using sorted

/-- The name of the file of a finding is not put together from other parts. -/
theorem fileName_inj {f : Finding} (known : f.category = "timeout" ∨ f.category = "crash")
    {category digest : String} :
    f.fileName = category ++ "_" ++ digest ++ ".txt" ↔
      f.category = category ∧ f.digest = digest := by
  refine ⟨fun same => ?_, fun same => by rw [Finding.fileName, same.1, same.2]⟩
  have inCategory : '_' ∉ f.category.toList := by rcases known with h | h <;> rw [h] <;> decide
  have inDigest : '_' ∉ f.digest.toList := fun mem => absurd (mem_shortName mem) (by decide)
  have behind : '_' ∉ f.digest.toList ++ ".txt".toList := by
    rw [List.mem_append, not_or]
    exact ⟨inDigest, by decide⟩
  have chars := congrArg String.toList same
  have mark : ("_" : String).toList = ['_'] := rfl
  simp only [Finding.fileName, String.toList_append, List.append_assoc, mark,
    List.singleton_append] at chars
  obtain ⟨front, -, back⟩ := (List.append_cons_inj_of_notMem inCategory behind).1 chars
  exact ⟨String.toList_inj.1 front, String.toList_inj.1 (List.append_cancel_right back)⟩

/-! ## The end of a campaign -/

/-- What the accounts of a campaign say, with or without an interruption. -/
structure Accounted (settings : Settings) (interrupted : Bool) (c : Campaign) : Prop where
  /-- Every try has one verdict, but for one that was interrupted. -/
  iterations : c.notebook.tally.iterations =
    c.notebook.tally.accepted + c.notebook.tally.rejected + c.notebook.tally.crashes +
      c.notebook.tally.timeouts + interrupted.toNat
  /-- The verdicts are counted as they were given. -/
  counts : c.notebook.tally.Counts c.tried
  result : c.result = c.notebook.tally.crashes + c.notebook.tally.timeouts
  /-- Digests, files and notices are equally many. -/
  once : c.digests.Nodup
  files : c.fileNames.Nodup ∧ c.fileNames.length = c.digests.length
  notices : c.notebook.printed.countP isNotice = c.digests.length
  noticeLines : '\n' ∉ settings.directory.toList →
    noticeLines c.notebook.output.toList = c.digests.length
  /-- There are some if and only if there were findings, and not more than these. -/
  atMost : c.digests.length ≤ c.result
  none_iff : c.digests.length = 0 ↔ c.result = 0
  /-- The digests are those of the lines that were findings. -/
  digests (digest : String) : digest ∈ c.digests ↔
    ∃ entry ∈ c.tried, entry.2.isFinding = true ∧ Digest.shortName entry.1 = digest
  /-- Every file is named by a category and a digest, and the category of a digest is that of the
  first finding in the order of the tries. -/
  named : ∀ name ∈ c.fileNames, ∃ category digest, name = category ++ "_" ++ digest ++ ".txt"
  category (category digest : String) :
    category ++ "_" ++ digest ++ ".txt" ∈ c.fileNames ↔
      ∃ line verdict, firstFinding? digest c.tried = some (line, verdict) ∧
        verdict.name = category

/-- Not more digests are kept than there were findings, and none only if there were none. -/
theorem Balanced.length_digests (h : c.Balanced settings pending) :
    c.digests.length ≤ c.result ∧ (c.digests.length = 0 ↔ c.result = 0) := by
  have result : c.result = (c.tried.filter (·.2.isFinding)).length := by
    rw [← List.countP_eq_length_filter, countP_isFinding, ← h.counts.crashes, ← h.counts.timeouts]
    rfl
  let met : List String :=
    (c.tried.filter (·.2.isFinding)).map fun entry => Digest.shortName entry.1
  have known (digest : String) : digest ∈ c.digests ↔ digest ∈ met := by
    rw [digests, h.kept.mem_digests, isSome_firstFinding?]
    simp [met, and_assoc]
  have length : met.length = c.result := by rw [result, List.length_map]
  refine ⟨length ▸ List.Nodup.length_le_of_subset h.kept.once fun digest => (known digest).1, ?_⟩
  rw [← length, List.length_eq_zero_iff, List.length_eq_zero_iff,
    List.eq_nil_iff_forall_not_mem, List.eq_nil_iff_forall_not_mem]
  exact forall_congr' fun digest => not_congr (known digest)

theorem Balanced.mem_fileNames (h : c.Balanced settings pending) {category digest : String} :
    category ++ "_" ++ digest ++ ".txt" ∈ c.fileNames ↔
      ∃ line verdict, firstFinding? digest c.tried = some (line, verdict) ∧
        verdict.name = category := by
  rw [c.fileNames_perm.mem_iff, List.mem_map]
  constructor
  · rintro ⟨f, mem, same⟩
    obtain ⟨rfl, rfl⟩ := (fileName_inj (h.kept.category mem)).1 same
    obtain ⟨verdict, first, named, -⟩ := (h.kept.first f).1 mem
    exact ⟨f.line, verdict, first, named.symm⟩
  · rintro ⟨line, verdict, first, rfl⟩
    obtain ⟨f, mem, rfl, rfl, named⟩ := h.kept.exists_of_first first
    exact ⟨f, mem, (fileName_inj (h.kept.category mem)).2 ⟨named, rfl⟩⟩

theorem Balanced.nodup_fileNames (h : c.Balanced settings pending) : c.fileNames.Nodup := by
  rw [c.fileNames_perm.nodup_iff, List.Nodup, List.pairwise_map]
  have apart := h.kept.once
  rw [List.Nodup, List.pairwise_map] at apart
  refine apart.imp_of_mem fun mem _ differ same => differ ?_
  exact ((fileName_inj (h.kept.category mem)).1 same).2

theorem Balanced.accounted {interrupted : Bool} (h : c.Balanced settings interrupted.toNat) :
    c.Accounted settings interrupted where
  iterations := by
    rw [h.iterations, length_eq_tries, h.counts.accepted, h.counts.rejected, h.counts.crashes,
      h.counts.timeouts]
  counts := h.counts
  result := rfl
  once := h.kept.once
  files := ⟨h.nodup_fileNames, by rw [c.fileNames_perm.length_eq, digests]; simp⟩
  notices := by rw [h.notices, digests, List.length_map]
  noticeLines whole := by
    have lines := h.lines whole []
    rw [digests, List.length_map]
    simpa [Fuzz.noticeLines, List.isPrefixOf] using lines
  atMost := h.length_digests.1
  none_iff := h.length_digests.2
  digests digest := by rw [Campaign.digests, h.kept.mem_digests, isSome_firstFinding?]
  named name mem := by
    obtain ⟨f, -, rfl⟩ := List.mem_map.1 (c.fileNames_perm.mem_iff.1 mem)
    exact ⟨f.category, f.digest, rfl⟩
  category _ _ := h.mem_fileNames

/-- The accounts of every campaign balance, whatever the clock shows, however the campaign judges
lines and however it ends. -/
theorem accounted_of_leadsTo {source : Source} {clock : Clock} {t : Turn}
    (h : LeadsTo settings (begin settings source clock) t) :
    t.close.Accounted settings t.isInterrupted :=
  (h.balanced (balanced_begin settings source clock)).close.accounted

/-- One line that takes too long, then breaks the parser, then is interrupted, is kept once. -/
theorem accounted_of_leadsTo_repeated :
    let settings : Settings := ⟨none, none, some 2, "findings", fun place _ =>
      if place = 0 then .timedOut "too long" else .crashed ⟨"RecursionError", "too deep"⟩⟩
    let first := begin settings (.ofSeed 0 [2147483647, 1, 2147483647, 1, 2147483647, 1])
      ⟨.zero false, .zero false⟩
    let c := (carryOn settings 5 first).close
    LeadsTo settings first (carryOn settings 5 first) ∧
      '\n' ∉ settings.directory.toList ∧ c.notebook.tally = ⟨3, 0, 0, 1, 1⟩ ∧
      noticeLines c.notebook.output.toList = 1 ∧
      "timeout" ++ "_" ++ Digest.shortName "1 2 -3 -3.5" ++ ".txt" ∈ c.fileNames := by
  intro settings first c
  have reached := leadsTo_carryOn settings 5 first
  have accounts : c.Accounted settings _ := accounted_of_leadsTo reached
  have whole : '\n' ∉ settings.directory.toList := by decide
  have once : c.digests.length = 1 := by decide +kernel
  refine ⟨reached, whole, by decide +kernel, (accounts.noticeLines whole).trans once, ?_⟩
  exact (accounts.category _ _).2 ⟨"1 2 -3 -3.5", .timedOut "too long", by decide +kernel, rfl⟩

end Campaign

end CommandLine.Fuzz
