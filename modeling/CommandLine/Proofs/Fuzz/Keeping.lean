import CommandLine.Proofs.Fuzz.Notices

/-!
# What a notebook keeps

A notebook agrees with the tries that were made: it counts their verdicts, keeps the first finding
of every digest and nothing else, and printed one notice for each. `Notebook.Balanced` says so, and
every entry preserves it.
-/

namespace CommandLine.Fuzz

/-! ## Counts -/

/-- How many of some tries had a verdict of a name. -/
def tries (name : String) (tried : List (String × Verdict)) : Nat :=
  tried.countP (·.2.name == name)

/-- The counts of verdicts are those of some tries. -/
structure Tally.Counts (t : Tally) (tried : List (String × Verdict)) : Prop where
  accepted : t.accepted = tries "ok" tried
  rejected : t.rejected = tries "error" tried
  crashes : t.crashes = tries "crash" tried
  timeouts : t.timeouts = tries "timeout" tried

variable {t : Tally} {tried : List (String × Verdict)} {line directory : String}
  {verdict : Verdict}

theorem Tally.Counts.count (h : t.Counts tried) (line : String) (verdict : Verdict) :
    (t.count verdict).Counts ((line, verdict) :: tried) := by
  obtain ⟨accepted, rejected, crashes, timeouts⟩ := h
  constructor <;> cases verdict <;> simp [Tally.count, tries, Verdict.name, *]

theorem Tally.iterations_count (t : Tally) (verdict : Verdict) :
    (t.count verdict).iterations = t.iterations := by
  cases verdict <;> rfl

theorem length_eq_tries (tried : List (String × Verdict)) :
    tried.length = tries "ok" tried + tries "error" tried + tries "crash" tried +
      tries "timeout" tried := by
  induction tried with
  | nil => rfl
  | cons entry tried ih =>
    obtain ⟨line, verdict⟩ := entry
    cases verdict <;>
      simp only [tries, List.countP_cons, Verdict.name, List.length_cons] at ih ⊢ <;>
      simp <;> omega

theorem countP_isFinding (tried : List (String × Verdict)) :
    tried.countP (·.2.isFinding) = tries "crash" tried + tries "timeout" tried := by
  induction tried with
  | nil => rfl
  | cons entry tried ih =>
    obtain ⟨line, verdict⟩ := entry
    cases verdict <;>
      simp only [tries, List.countP_cons, Verdict.name, Verdict.isFinding] at ih ⊢ <;>
      simp <;> omega

/-! ## Findings -/

/-- The first of some tries, which are held newest first, that was a finding of a digest. -/
def firstFinding? (digest : String) (tried : List (String × Verdict)) :
    Option (String × Verdict) :=
  tried.reverse.find? fun entry => entry.2.isFinding && Digest.shortName entry.1 == digest

theorem firstFinding?_cons (digest : String) :
    firstFinding? digest ((line, verdict) :: tried) = (firstFinding? digest tried).or
      (if verdict.isFinding && Digest.shortName line == digest then some (line, verdict)
      else none) := by
  rw [firstFinding?, List.reverse_cons, List.find?_append, List.find?_singleton]
  rfl

theorem exists_of_firstFinding? {digest : String}
    (first : firstFinding? digest tried = some (line, verdict)) :
    (line, verdict) ∈ tried ∧ Digest.shortName line = digest ∧ verdict.isFinding = true := by
  have mem := List.mem_of_find?_eq_some first
  have holds := List.find?_some first
  simp only [Bool.and_eq_true, beq_iff_eq] at holds
  exact ⟨List.mem_reverse.1 mem, holds.2, holds.1⟩

theorem isSome_firstFinding? {digest : String} :
    (firstFinding? digest tried).isSome = true ↔
      ∃ entry ∈ tried, entry.2.isFinding = true ∧ Digest.shortName entry.1 = digest := by
  simp [firstFinding?, List.find?_isSome]

theorem Verdict.isFinding_iff :
    verdict.isFinding = true ↔ ∃ fault, verdict.fault? = some fault := by
  cases verdict <;> simp [isFinding, fault?]

/-- Of every digest of a finding, the first finding is kept, and nothing else is. -/
structure Kept (findings : List Finding) (tried : List (String × Verdict)) : Prop where
  once : (findings.map Finding.digest).Nodup
  first (f : Finding) : f ∈ findings ↔ ∃ verdict,
    firstFinding? f.digest tried = some (f.line, verdict) ∧ f.category = verdict.name ∧
      verdict.fault? = some f.fault

namespace Kept

variable {findings : List Finding} {fault : Fault}

/-- The finding that a line is kept as. -/
theorem exists_of_first (h : Kept findings tried) {digest : String}
    (first : firstFinding? digest tried = some (line, verdict)) :
    ∃ f ∈ findings, f.digest = digest ∧ f.line = line ∧ f.category = verdict.name := by
  obtain ⟨-, rfl, finding⟩ := exists_of_firstFinding? first
  obtain ⟨fault, fault_eq⟩ := Verdict.isFinding_iff.1 finding
  exact ⟨⟨verdict.name, line, fault⟩, (h.first _).2 ⟨verdict, first, rfl, fault_eq⟩, rfl, rfl, rfl⟩

theorem mem_digests (h : Kept findings tried) {digest : String} :
    digest ∈ findings.map Finding.digest ↔ (firstFinding? digest tried).isSome = true := by
  constructor
  · intro mem
    obtain ⟨f, known, rfl⟩ := List.mem_map.1 mem
    obtain ⟨verdict, first, -⟩ := (h.first f).1 known
    rw [first]
    rfl
  · intro some
    obtain ⟨⟨line, verdict⟩, first⟩ := Option.isSome_iff_exists.1 some
    obtain ⟨f, mem, same, -⟩ := h.exists_of_first first
    exact List.mem_map.2 ⟨f, mem, same⟩

theorem category (h : Kept findings tried) {f : Finding} (mem : f ∈ findings) :
    f.category = "timeout" ∨ f.category = "crash" := by
  obtain ⟨verdict, -, same, fault⟩ := (h.first f).1 mem
  rw [same]
  cases verdict with
  | accepted | rejected => simp [Verdict.fault?] at fault
  | timedOut => exact .inl rfl
  | crashed => exact .inr rfl

/-- A try that changes no first finding leaves everything as it is. -/
theorem of_same (h : Kept findings tried)
    (same : ∀ digest,
      firstFinding? digest ((line, verdict) :: tried) = firstFinding? digest tried) :
    Kept findings ((line, verdict) :: tried) :=
  ⟨h.once, fun f => by rw [same]; exact h.first f⟩

theorem of_not_finding (h : Kept findings tried) (none : verdict.fault? = none) :
    Kept findings ((line, verdict) :: tried) := by
  have unfound : verdict.isFinding = false := by
    rw [Bool.eq_false_iff, Ne, Verdict.isFinding_iff]
    simp [none]
  exact h.of_same fun digest => by simp [firstFinding?_cons, unfound]

theorem of_known (h : Kept findings tried)
    (known : Digest.shortName line ∈ findings.map Finding.digest) :
    Kept findings ((line, verdict) :: tried) := by
  refine h.of_same fun digest => ?_
  rw [firstFinding?_cons]
  by_cases same : Digest.shortName line = digest
  · obtain ⟨entry, first⟩ := Option.isSome_iff_exists.1 (h.mem_digests.1 known)
    rw [← same, first, Option.some_or]
  · simp [same]

theorem cons (h : Kept findings tried) (fault_eq : verdict.fault? = some fault)
    (new : Digest.shortName line ∉ findings.map Finding.digest) :
    Kept (⟨verdict.name, line, fault⟩ :: findings) ((line, verdict) :: tried) := by
  have finding := Verdict.isFinding_iff.2 ⟨fault, fault_eq⟩
  have unmet : firstFinding? (Digest.shortName line) tried = none := by
    rwa [h.mem_digests, Bool.not_eq_true, Option.isSome_eq_false_iff, Option.isNone_iff_eq_none]
      at new
  refine ⟨List.nodup_cons.2 ⟨new, h.once⟩, fun f => ?_⟩
  rw [List.mem_cons, firstFinding?_cons, finding, Bool.true_and]
  constructor
  · rintro (rfl | mem)
    · refine ⟨verdict, ?_, rfl, fault_eq⟩
      simp [Finding.digest, unmet]
    · obtain ⟨v, first, rest⟩ := (h.first f).1 mem
      exact ⟨v, by rw [first, Option.some_or], rest⟩
  · rintro ⟨v, first, category, faulty⟩
    rcases Option.or_eq_some_iff.1 first with old | ⟨-, this⟩
    · exact .inr ((h.first f).2 ⟨v, old, category, faulty⟩)
    · -- The try itself is the first finding of this digest.
      left
      split at this
      · obtain ⟨rfl, rfl⟩ : line = f.line ∧ verdict = v := by simpa using this
        obtain rfl : fault = f.fault := Option.some.inj (fault_eq.symm.trans faulty)
        rw [← category]
      · simp at this

end Kept

/-! ## The notebook -/

/-- A notebook agrees with the tries that were made, and with a number of tries that have no
verdict. -/
structure Notebook.Balanced (directory : String) (pending : Nat) (b : Notebook)
    (tried : List (String × Verdict)) : Prop where
  iterations : b.tally.iterations = tried.length + pending
  counts : b.tally.Counts tried
  kept : Kept b.findings tried
  notices : b.printed.countP isNotice = b.findings.length
  lines : '\n' ∉ directory.toList → Tells b.output b.findings.length

namespace Notebook

variable {b : Notebook}

theorem output_print (b : Notebook) (text : String) : (b.print text).output = b.output ++ text := by
  simp [output, print, String.join_append]

theorem tells_print {m n : Nat} {text : String} (h : Tells b.output m) (next : Tells text n) :
    Tells (b.print text).output (m + n) := by
  intro rest
  rw [output_print, String.toList_append, List.append_assoc, h, next, Nat.add_assoc]

theorem balanced_empty (directory : String) : empty.Balanced directory 0 [] where
  iterations := rfl
  counts := ⟨rfl, rfl, rfl, rfl⟩
  kept := ⟨List.nodup_nil, fun f => by simp [empty, firstFinding?]⟩
  notices := rfl
  lines _ rest := (Nat.zero_add _).symm

namespace Balanced

variable {pending : Nat}

theorem print (h : b.Balanced directory pending tried) {text : String}
    (plain : Plain directory text) : (b.print text).Balanced directory pending tried where
  iterations := h.iterations
  counts := h.counts
  kept := h.kept
  notices := by rw [Notebook.print, List.countP_cons, plain.unmarked]; exact h.notices
  lines whole := tells_print (h.lines whole) (plain.silent whole)

theorem begin (h : b.Balanced directory 0 tried) :
    Balanced directory 1 { b with tally := b.tally.begin } tried where
  iterations := by rw [Tally.begin, h.iterations]
  counts := ⟨h.counts.accepted, h.counts.rejected, h.counts.crashes, h.counts.timeouts⟩
  kept := h.kept
  notices := h.notices
  lines := h.lines

theorem record (h : b.Balanced directory 1 tried) (line : String) (verdict : Verdict) :
    (b.record directory line verdict).Balanced directory 0 ((line, verdict) :: tried) := by
  have iterations : (b.tally.count verdict).iterations = tried.length + 1 := by
    rw [Tally.iterations_count, h.iterations]
  have counts := h.counts.count line verdict
  unfold Notebook.record
  cases fault_eq : verdict.fault? with
  | none => exact ⟨iterations, counts, h.kept.of_not_finding fault_eq, h.notices, h.lines⟩
  | some fault =>
    simp only [Notebook.keep]
    split
    · next known => exact ⟨iterations, counts, h.kept.of_known known, h.notices, h.lines⟩
    · next new =>
      have category : '\n' ∉ verdict.name.toList := by cases verdict <;> simp [Verdict.name]
      refine ⟨iterations, counts, h.kept.cons fault_eq new, ?_, fun whole => ?_⟩
      · rw [Notebook.print, List.countP_cons, isNotice_notice]
        exact congrArg (· + 1) h.notices
      · exact tells_print (h.lines whole) (tells_notice whole category)

end Balanced

end Notebook

end CommandLine.Fuzz
