import CommandLine.Fuzz.Source

/-!
# What draws can give

A draw yields a predicate if what it gives satisfies it from every source, so that the numbers
that are drawn do not matter.
-/

namespace CommandLine.Fuzz.Draw

/-- Whatever is drawn satisfies a predicate. -/
def Yields {α : Type} (d : Draw α) (p : α → Prop) : Prop := ∀ source, p (d.run source).1

variable {α β : Type} {d : Draw α} {p q : α → Prop} {r : β → Prop} {xs : List α}

theorem Yields.mono (h : Yields d p) (weaker : ∀ x, p x → q x) : Yields d q :=
  fun source => weaker _ (h source)

theorem yields_pure {x : α} (h : p x) : Yields (pure x) p := fun _ => h

theorem Yields.bind {next : α → Draw β} (h : Yields d p) (more : ∀ x, p x → Yields (next x) r) :
    Yields (d >>= next) r :=
  fun source => more _ (h source) _

/-- What is drawn first may be anything. -/
theorem yields_bind {next : α → Draw β} (more : ∀ x, Yields (next x) r) : Yields (d >>= next) r :=
  fun _ => more _ _

theorem yields_ite {c : Bool} {e : Draw α} (yes : Yields d p) (no : Yields e p) :
    Yields (if c then d else e) p := by
  cases c with
  | true => exact yes
  | false => exact no

theorem yields_below {n : Nat} (positive : 0 < n) : Yields (below n) (· < n) := by
  unfold below
  rw [if_neg (by omega)]
  refine yields_bind fun number => yields_pure ?_
  have nonneg : 0 ≤ number % (n : Int) := Int.emod_nonneg number (by omega)
  have less : number % (n : Int) < n := Int.emod_lt_of_pos number (by omega)
  omega

theorem yields_within {low beyond : Nat} (h : low < beyond) :
    Yields (within low beyond) fun n => low ≤ n ∧ n < beyond := by
  refine (yields_below (by omega)).bind fun steps inside => yields_pure ?_
  omega

theorem yields_between {low high : Nat} (h : low ≤ high) :
    Yields (between low high) fun n => low ≤ n ∧ n ≤ high :=
  (yields_within (by omega)).mono fun n inside => ⟨inside.1, by omega⟩

theorem yields_pick [Inhabited α] (nonempty : xs ≠ []) (h : ∀ x ∈ xs, p x) :
    Yields (pick xs) p := by
  refine (yields_below (List.length_pos_iff.2 nonempty)).bind fun place inside => yields_pure ?_
  rw [List.getD_eq_getElem?_getD, List.getElem?_eq_getElem inside, Option.getD_some]
  exact h _ (List.getElem_mem inside)

theorem yields_pick_of_all [Inhabited α] {test : α → Bool} (nonempty : xs ≠ [])
    (h : xs.all test = true) : Yields (pick xs) fun x => test x = true :=
  yields_pick nonempty (List.all_eq_true.1 h)

theorem yields_times (h : Yields d p) (n : Nat) :
    Yields (times n d) fun xs => xs.length = n ∧ ∀ x ∈ xs, p x := by
  induction n with
  | zero => exact yields_pure ⟨rfl, List.forall_mem_nil _⟩
  | succ n ih =>
    refine h.bind fun x holds => ih.bind fun xs all => yields_pure ⟨?_, ?_⟩
    · rw [List.length_cons, all.1]
    · exact List.forall_mem_cons.2 ⟨holds, all.2⟩

end CommandLine.Fuzz.Draw
