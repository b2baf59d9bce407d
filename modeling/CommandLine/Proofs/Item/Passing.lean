import CommandLine.Proofs.Item.Course
import CommandLine.Proofs.Terminal.Spelling

/-!
# Reading past a text

Texts are put together from others, and whether reading gets past the whole is told by the parts
(`Passes.append`): past a token that can stand there (`passes_token`), never past a dash that is
followed by the end of a value (`passes_dash`).
-/

namespace CommandLine
open CommandLine.Text CommandLine.Text.Scanner

namespace Terminal

/-- A dash alone is no token. -/
theorem scan_dash {rest : List Char} (ends : endsValue rest = true) (t : Terminal) :
    t.scan ('-' :: rest) = none := by
  cases t with
  | key => exact key_scan_dash rest
  | flag =>
    cases scanned : flag.scan ('-' :: rest) with
    | none => rfl
    | some found =>
      obtain ⟨c, name, same, start, -, split⟩ := flag_scan_eq_some scanned
      rw [same] at split
      obtain rfl : rest = c :: (name ++ found.2) := (List.cons.inj split).2
      have outside := List.any_eq_false.1 isFlag_valueStops c (mem_valueStops ends)
      simp [start] at outside
  | openBracket => exact mark_scan_of_ne rfl (by decide) rest
  | closeBracket => exact mark_scan_of_ne rfl (by decide) rest
  | comma => exact mark_scan_of_ne rfl (by decide) rest
  | scalar form =>
    by_cases quoted : form = .quoted
    · subst quoted
      exact quoted_scan_of_ne (by decide) rest
    · have alone : (scalar form).scan ['-'] = none := by cases form <;> rfl
      have stops := scalar_scan_stopsAt quoted ['-'] rest ends
      rwa [alone] at stops

theorem ne_dash_of_reads {t : Terminal} {text : List Char} (reads : t.Reads text) :
    text ≠ ['-'] := by
  rintro rfl
  have scanned := (Item.follow_of_firstScan reads).1
  rw [scan_dash rfl] at scanned
  cases scanned

end Terminal

/-- What a state is behind a token that can stand in it, wherever the token is. -/
def State.TakenTo (s : State) (t : Terminal) (lexeme : List Char) (next : State) : Prop :=
  ∃ here, s.shift t (.read t lexeme here) = some next

namespace Item

/-- How reading gets past a text that is followed by what may end it. If all is fine, it comes to
some state of a given kind behind the text; otherwise the line is rejected. -/
def Passes (fine : Prop) (s : State) (cs : List Char) (ends : List Char → Bool)
    (kind : State → Prop) : Prop :=
  ∀ here rest, ends rest = true →
    (fine → ∃ next there, kind next ∧
      readFrom State.seeks s here (cs ++ rest) = readFrom State.seeks next there rest) ∧
    (¬ fine → ∃ rejection, readFrom State.seeks s here (cs ++ rest) = .error rejection)

variable {fine fine' : Prop} {s next : State} {cs ds lexeme gap : List Char} {t : Terminal}
  {ends ends' : List Char → Bool} {kind kind' : State → Prop}

theorem Passes.mono (h : Passes fine s cs ends kind) (wider : ∀ next, kind next → kind' next)
    (tighter : ∀ rest, ends' rest = true → ends rest = true) : Passes fine s cs ends' kind' := by
  intro here rest ended
  obtain ⟨goes, stops⟩ := h here rest (tighter rest ended)
  refine ⟨fun holds => ?_, stops⟩
  obtain ⟨next, there, known, same⟩ := goes holds
  exact ⟨next, there, wider next known, same⟩

theorem Passes.of_iff (h : Passes fine s cs ends kind) (same : fine' ↔ fine) :
    Passes fine' s cs ends kind := by
  rwa [propext same]

/-- One text after the other. -/
theorem Passes.append (first : Passes fine s cs ends kind)
    (second : ∀ next, kind next → Passes fine' next ds ends' kind')
    (joint : ∀ rest, ends' rest = true → ends (ds ++ rest) = true) :
    Passes (fine ∧ fine') s (cs ++ ds) ends' kind' := by
  intro here rest ended
  rw [List.append_assoc]
  obtain ⟨goes, stops⟩ := first here (ds ++ rest) (joint rest ended)
  by_cases holds : fine
  · obtain ⟨next, there, known, same⟩ := goes holds
    obtain ⟨goes', stops'⟩ := second next known there rest ended
    rw [same]
    exact ⟨fun both => goes' both.2, fun not => stops' fun holds' => not ⟨holds, holds'⟩⟩
  · exact ⟨fun both => absurd both.1 holds, fun _ => stops holds⟩

/-- A text that is sure to be passed, and another one behind it. -/
theorem Passes.then (first : Passes True s cs ends kind)
    (second : ∀ next, kind next → Passes fine next ds ends' kind')
    (joint : ∀ rest, ends' rest = true → ends (ds ++ rest) = true) :
    Passes fine s (cs ++ ds) ends' kind' := by
  have both := first.append second joint
  rwa [true_and] at both

/-- A text, and another one behind it that is sure to be passed. -/
theorem Passes.before (first : Passes fine s cs ends kind)
    (second : ∀ next, kind next → Passes True next ds ends' kind')
    (joint : ∀ rest, ends' rest = true → ends (ds ++ rest) = true) :
    Passes fine s (cs ++ ds) ends' kind' := by
  have both := first.append second joint
  rwa [and_true] at both

/-- A token that is found and can stand here. -/
theorem passes_found (found : firstScan (Terminal.byPriority.filter s.accepts) lexeme =
      some (t, lexeme, [])) (accepts : s.accepts t = true) :
    Passes True s lexeme t.follow (s.TakenTo t lexeme) := by
  intro here rest follows
  refine ⟨fun _ => ?_, fun not => absurd trivial not⟩
  have sought : firstScan (Terminal.byPriority.filter s.seeks) (lexeme ++ []) =
      some (t, lexeme, []) := by
    rw [List.append_nil]
    exact (State.firstScan_seeks_iff accepts).2 found
  obtain ⟨next, shifted⟩ := State.exists_shift accepts (.read t lexeme here)
  have nothing : Blank [] := List.forall_mem_nil _
  have step : Steps ⟨s, here, [] ++ (lexeme ++ rest)⟩ t lexeme
      ⟨next, (here.advance []).advance lexeme, rest⟩ :=
    steps_of_found nothing sought shifted follows
  exact ⟨next, _, ⟨here, shifted⟩, step.result_eq⟩

/-- A text that reads as a token, where the token can stand. -/
theorem passes_token (reads : t.Reads lexeme) (accepts : s.accepts t = true) :
    Passes True s lexeme t.follow (s.TakenTo t lexeme) :=
  passes_found (firstScan_filter reads accepts) accepts

theorem passes_blank (blank : Blank gap) (ends : List Char → Bool) :
    Passes True s gap ends (· = s) := by
  intro here rest _
  refine ⟨fun _ => ⟨s, here.advance gap, rfl, readFrom_blank_append blank s here rest⟩, ?_⟩
  intro not
  exact absurd trivial not

/-- No line goes on with a dash alone. -/
theorem passes_dash (s : State) (kind : State → Prop) :
    Passes False s ['-'] Terminal.endsValue kind := by
  intro here rest ends
  refine ⟨False.elim, fun _ => ?_⟩
  have visible : skipBlanks ('-' :: rest) = '-' :: rest := rfl
  have missing : firstScan (Terminal.byPriority.filter s.seeks) (skipBlanks ('-' :: rest)) = none :=
    firstScan_eq_none_iff.2 fun t _ => Terminal.scan_dash ends t
  exact ⟨_, readFrom_unread (by simp [visible]) missing⟩

end Item

end CommandLine
