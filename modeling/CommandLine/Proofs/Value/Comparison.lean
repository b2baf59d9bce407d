import CommandLine.Proofs.Command.Hashing

/-!
# What compares equal to itself

Values are compared by what they hold, and of all that they can hold only NaN is not equal to itself
(`Value.sameAs_self`, `Command.sameAs_self`).
-/

namespace CommandLine

theorem Double.sameAs_self {x : Double} (number : x ≠ .nan) : x.sameAs x = true := by
  cases x with
  | finite negative rank => cases negative <;> simp [sameAs, key?]
  | infinite negative => cases negative <;> simp [sameAs, key?]
  | nan => exact absurd rfl number

namespace Value

mutual

/-- A value without NaN, at whatever depth. -/
def NaNFree : Value → Prop
  | float x => x ≠ .nan
  | list items => AllNaNFree items
  | _ => True

/-- Values without NaN. -/
def AllNaNFree : List Value → Prop
  | [] => True
  | v :: vs => NaNFree v ∧ AllNaNFree vs

end

mutual

theorem sameAs_self : ∀ {v : Value}, v.NaNFree → v.sameAs v = true
  | .string s, _ => by simp [sameAs]
  | .bool b, _ => by simp [sameAs]
  | .int n, _ => by simp [sameAs]
  | .float _, number => Double.sameAs_self number
  | .list _, h => sameAll_self h
  | .range first beyond, _ => by simp [sameAs]

theorem sameAll_self : ∀ {vs : List Value}, AllNaNFree vs → sameAll vs vs = true
  | [], _ => rfl
  | v :: vs, h => by rw [sameAll, sameAs_self h.1, sameAll_self h.2, Bool.and_self]

end

end Value

namespace Command

/-- A command without NaN in any of its values. -/
structure NaNFree (c : Command) : Prop where
  arguments : Value.AllNaNFree c.arguments
  bindings : ∀ e ∈ c.bindings.entries, e.2.NaNFree

theorem sameAs_self {c : Command} (h : c.NaNFree) : c.sameAs c = true := by
  refine Bool.and_eq_true_iff.2 ⟨Value.sameAll_self h.arguments, Bindings.agree_iff.2 ⟨rfl, ?_⟩⟩
  intro e member
  exact ⟨e.2, Bindings.get?_of_mem member, Value.sameAs_self (h.bindings e member)⟩

end Command

end CommandLine
