import CommandLine.Command.Hashing
import Mathlib.Data.List.Forall2
import Mathlib.Data.List.Nodup
import Mathlib.Data.List.Perm.Subperm

/-!
# Equal commands have equal hashes

However deep its lists are, a value has the hash of every value that it compares equal to. Bindings
that agree are the same entries in another order, so a hash that does not regard the order does not
tell them apart.
-/

namespace CommandLine

namespace Bindings

variable {α : Type} {same : α → α → Bool} {b c : Bindings α}

/-- A name has the value that stands with it. -/
theorem get?_of_mem {e : String × α} (member : e ∈ b.entries) : b.get? e.1 = some e.2 := by
  obtain ⟨entries, distinct⟩ := b
  show entries.lookup e.1 = some e.2
  induction entries with
  | nil => cases member
  | cons first entries ih =>
    obtain ⟨apart, distinct⟩ := List.nodup_cons.1 distinct
    rw [List.lookup_cons]
    rcases List.mem_cons.1 member with rfl | later
    · simp
    · have other : (e.1 == first.1) = false := by
        simpa using fun named : e.1 = first.1 => apart (named ▸ List.mem_map_of_mem later)
      rw [other]
      exact ih distinct later

theorem mem_of_get? {name : String} {v : α} (found : b.get? name = some v) :
    (name, v) ∈ b.entries := by
  obtain ⟨before, after, split, -⟩ := List.lookup_eq_some_iff.1 found
  simp [split]

theorem agree_iff : b.agree same c = true ↔ b.entries.length = c.entries.length ∧
    ∀ e ∈ b.entries, ∃ v, c.get? e.1 = some v ∧ same e.2 v = true := by
  simp only [agree, Bool.and_eq_true, beq_iff_eq, List.all_eq_true]
  refine and_congr_right fun _ => forall₂_congr fun e _ => ?_
  cases c.get? e.1 <;> simp

/-- Bindings that agree are, in another order, the same names with related values. -/
theorem exists_perm_of_agree (h : b.agree same c = true) :
    ∃ partners, List.Perm partners c.entries ∧
      List.Forall₂ (fun e e' => e.1 = e'.1 ∧ same e.2 e'.2 = true) b.entries partners := by
  obtain ⟨lengths, each⟩ := agree_iff.1 h
  let partner (e : String × α) : String × α := (e.1, (c.get? e.1).getD e.2)
  have names : (b.entries.map partner).map Prod.fst = b.entries.map Prod.fst := by
    simp [partner, List.map_map, Function.comp_def]
  refine ⟨b.entries.map partner, ?_, ?_⟩
  · have nodup : (b.entries.map partner).Nodup := List.Nodup.of_map Prod.fst (names ▸ b.distinct)
    have within : b.entries.map partner ⊆ c.entries := by
      refine List.forall_mem_map.2 fun e member => ?_
      obtain ⟨v, found, -⟩ := each e member
      simpa [partner, found] using mem_of_get? found
    exact (List.subperm_of_subset nodup within).perm_of_length_le (by simp [lengths])
  · rw [List.forall₂_map_right_iff, List.forall₂_same]
    intro e member
    obtain ⟨v, found, related⟩ := each e member
    exact ⟨rfl, by simpa [partner, found] using related⟩

end Bindings

namespace Hashing

variable (h : Hashing)

mutual

/-- Values that compare equal have equal hashes. -/
theorem value_congr : ∀ {v w : Value}, v.sameAs w = true → h.value v = h.value w
  | .string s, w, same => by cases w <;> simp_all [Value.sameAs, value]
  | .bool b, w, same => by cases w <;> simp_all [Value.sameAs, value]
  | .int n, w, same => by cases w <;> simp_all [Value.sameAs, value]
  | .float x, w, same => by
    cases w with
    | float y => simp only [value, h.float_congr x y same]
    | _ => cases same
  | .list vs, w, same => by
    cases w with
    | list ws => simp only [value, values_congr same]
    | _ => cases same
  | .range first beyond, w, same => by cases w <;> simp_all [Value.sameAs, value]

theorem values_congr : ∀ {vs ws : List Value}, Value.sameAll vs ws = true →
    h.values vs = h.values ws
  | [], [], _ => rfl
  | [], _ :: _, same => by cases same
  | _ :: _, [], same => by cases same
  | v :: vs, w :: ws, same => by
    obtain ⟨first, others⟩ := Bool.and_eq_true_iff.1 same
    rw [values, values, value_congr first, values_congr others]

end

/-- Commands that compare equal have equal hashes, in whatever order their names stand. -/
theorem command_congr {c d : Command} (same : c.sameAs d = true) : h.command c = h.command d := by
  obtain ⟨arguments, bindings⟩ := Bool.and_eq_true_iff.1 same
  obtain ⟨partners, perm, related⟩ := Bindings.exists_perm_of_agree bindings
  have alike : c.bindings.entries.map h.binding = partners.map h.binding := by
    rw [← List.forall₂_eq_eq_eq, List.forall₂_map_left_iff, List.forall₂_map_right_iff]
    refine related.imp fun e e' both => ?_
    rw [binding, binding, both.1, h.value_congr both.2]
  rw [command, command, h.values_congr arguments, alike, h.set_perm _ _ (perm.map h.binding)]

/-- A set of commands has as many elements as there are different commands. -/
theorem countDistinct_eq (cs : List Command) : h.countDistinct cs = Command.countDistinct cs := by
  have found (c d : Command) : (h.command c == h.command d && c.sameAs d) = c.sameAs d := by
    cases same : c.sameAs d with
    | false => rw [Bool.and_false]
    | true => simp [h.command_congr same]
  induction cs with
  | nil => rfl
  | cons c cs ih => simp only [countDistinct, Command.countDistinct, found, ih]

end Hashing

end CommandLine
