import CommandLine.Proofs.Numeral.Literal
import CommandLine.Proofs.Value.Comparison

/-!
# Values and plain data

Taking values apart into plain data and making values of plain data undo each other. No value is
made of data that holds, in lists and tuples at whatever depth, something that no value stands for;
what is told then is the first such thing (`Plain.coerce_inverse`). It is told as one of the wrong
type, unless it is a range with a number of more than `digitLimit` digits.
-/

namespace CommandLine

section Map
variable {ε α β : Type} {f : α → β} {result : Except ε α}

theorem map_eq_ok_iff {b : β} : result.map f = .ok b ↔ ∃ a, result = .ok a ∧ f a = b := by
  cases result with
  | error e => exact ⟨nofun, nofun⟩
  | ok a => simp [Except.map]

theorem map_eq_error_iff {e : ε} : result.map f = .error e ↔ result = .error e := by
  cases result with
  | error e' => simp [Except.map]
  | ok a => exact ⟨nofun, nofun⟩

end Map

namespace Plain

/-! ## What data consists of -/

mutual

/-- What data holds besides lists and tuples, through all of these, from left to right. -/
def leaves : Plain → List Plain
  | list items => leavesAll items
  | tuple items => leavesAll items
  | leaf => [leaf]

/-- The leaves of some data, from left to right. -/
def leavesAll : List Plain → List Plain
  | [] => []
  | x :: xs => leaves x ++ leavesAll xs

end

mutual

/-- Data with lists in place of tuples, and with what values stand for in place of the values. -/
def native : Plain → Plain
  | list items => list (nativeAll items)
  | tuple items => list (nativeAll items)
  | value v => v.toPlain
  | leaf => leaf

/-- Some data with lists in place of tuples and without values. -/
def nativeAll : List Plain → List Plain
  | [] => []
  | x :: xs => native x :: nativeAll xs

end

/-! ## What values stand for -/

mutual

/-- The value of what a value stands for is that value. -/
theorem coerce_toPlain : ∀ v : Value, coerce v.toPlain = .ok v
  | .string _ => rfl
  | .bool _ => rfl
  | .int _ => rfl
  | .float _ => rfl
  | .list items => by rw [Value.toPlain, coerce, coerceAll_toPlainAll items]; rfl
  | .range _ _ => by rw [Value.toPlain, coerce, if_pos rfl]

theorem coerceAll_toPlainAll : ∀ vs : List Value, coerceAll (Value.toPlainAll vs) = .ok vs
  | [] => rfl
  | v :: vs => by
    rw [Value.toPlainAll, coerceAll, coerce_toPlain v, coerceAll_toPlainAll vs]
    rfl

end

/-! ## What data stands for -/

variable {x : Plain} {xs : List Plain} {fault : Fault}

theorem coerceAll_cons_eq_ok_iff {vs : List Value} :
    coerceAll (x :: xs) = .ok vs ↔
      ∃ v, coerce x = .ok v ∧ ∃ more, coerceAll xs = .ok more ∧ v :: more = vs := by
  rw [coerceAll]
  cases coerce x with
  | error fault => exact ⟨nofun, nofun⟩
  | ok v => simp [map_eq_ok_iff]

mutual

/-- A value stands for the data that it was made of. -/
theorem toPlain_of_coerce : ∀ {data : Plain} {v : Value}, coerce data = .ok v →
    v.toPlain = data.native
  | list items, v, made => by
    rw [coerce, map_eq_ok_iff] at made
    obtain ⟨vs, each, rfl⟩ := made
    rw [Value.toPlain, toPlainAll_of_coerceAll each, native]
  | tuple items, v, made => by
    rw [coerce, map_eq_ok_iff] at made
    obtain ⟨vs, each, rfl⟩ := made
    rw [Value.toPlain, toPlainAll_of_coerceAll each, native]
  | range first beyond step, v, made => by
    by_cases one : step = 1
    · rw [coerce, if_pos one] at made
      cases made
      rw [one]
      rfl
    · rw [coerce, if_neg one] at made
      cases made
  | text s, _, made => by cases made; rfl
  | bool b, _, made => by cases made; rfl
  | int n, _, made => by cases made; rfl
  | float x, _, made => by cases made; rfl
  | value v, _, made => by cases made; rfl

theorem toPlainAll_of_coerceAll : ∀ {data : List Plain} {vs : List Value},
    coerceAll data = .ok vs → Value.toPlainAll vs = nativeAll data
  | [], vs, made => by cases made; rfl
  | x :: xs, vs, made => by
    obtain ⟨v, first, more, others, rfl⟩ := coerceAll_cons_eq_ok_iff.1 made
    rw [Value.toPlainAll, toPlain_of_coerce first, toPlainAll_of_coerceAll others, nativeAll]

end

/-! ## What no value stands for -/

/-- Data that no value stands for by itself, and why. A range that leaves numbers out is to be
shown, which it can not be if one of its numbers has too many digits. -/
inductive Unfit : Plain → Fault → Prop
  | steppedRange {first beyond step : Int} : step ≠ 1 →
      (∀ n ∈ [first, beyond, step], n.natAbs < Nat.pow 10 Numeral.digitLimit) →
      Unfit (range first beyond step) (.steppedRange first beyond step)
  | overlongRange {first beyond step n : Int} : step ≠ 1 →
      n ∈ [first, beyond, step] → Nat.pow 10 Numeral.digitLimit ≤ n.natAbs →
      Unfit (range first beyond step) .overlongRange
  | absent : Unfit absent (.unsupported "NoneType")
  | table (entries : List (Plain × Plain)) : Unfit (table entries) (.unsupported "dict")
  | set (members : List Plain) : Unfit (set members) (.unsupported "set")
  | bytes (content : List UInt8) : Unfit (bytes content) (.unsupported "bytes")

/-- The first of some data that is unfit, and why. -/
def FirstUnfit (data : List Plain) (fault : Fault) : Prop :=
  ∃ before leaf after, data = before ++ leaf :: after ∧
    (∀ earlier ∈ before, ∀ other, ¬ Unfit earlier other) ∧ Unfit leaf fault

/-- Whether data is unfit by itself, and why. -/
def fault? : Plain → Option Fault
  | range first beyond step => if step = 1 then none else some (rangeFault first beyond step)
  | absent => some (.unsupported "NoneType")
  | table _ => some (.unsupported "dict")
  | set _ => some (.unsupported "set")
  | bytes _ => some (.unsupported "bytes")
  | _ => none

theorem unfit_range_iff {first beyond step : Int} (skips : step ≠ 1) :
    Unfit (range first beyond step) fault ↔ rangeFault first beyond step = fault := by
  have writable : [first, beyond, step].all Numeral.isWritable = true ↔
      ∀ n ∈ [first, beyond, step], n.natAbs < Nat.pow 10 Numeral.digitLimit := by
    simp only [List.all_eq_true, Numeral.isWritable_iff]
  unfold rangeFault
  constructor
  · intro unfit
    cases unfit with
    | steppedRange _ short => rw [if_pos (writable.2 short)]
    | overlongRange _ member long =>
      exact if_neg fun all => Nat.not_lt.2 long (writable.1 all _ member)
  · rintro rfl
    split
    · next all => exact .steppedRange skips (writable.1 all)
    · next some =>
      rw [writable, not_forall₂] at some
      obtain ⟨n, member, long⟩ := some
      exact .overlongRange skips member (Nat.not_lt.1 long)

theorem fault?_eq_some_iff : fault? x = some fault ↔ Unfit x fault := by
  constructor
  · intro found
    cases x with
    | range first beyond step =>
      by_cases one : step = 1
      · simp [fault?, one] at found
      · simp only [fault?, one, if_false, Option.some.injEq] at found
        exact (unfit_range_iff one).2 found
    | _ => cases found <;> constructor
  · intro unfit
    cases unfit with
    | steppedRange skips short =>
      rw [fault?, if_neg skips, (unfit_range_iff skips).1 (.steppedRange skips short)]
    | overlongRange skips member long =>
      rw [fault?, if_neg skips, (unfit_range_iff skips).1 (.overlongRange skips member long)]
    | _ => rfl

theorem fault?_eq_none_iff : fault? x = none ↔ ∀ fault, ¬ Unfit x fault := by
  simp only [Option.eq_none_iff_forall_ne_some, ne_eq, fault?_eq_some_iff]

theorem firstUnfit_iff {data : List Plain} :
    FirstUnfit data fault ↔ data.findSome? fault? = some fault := by
  rw [List.findSome?_eq_some_iff]
  constructor
  · rintro ⟨before, leaf, after, split, fine, unfit⟩
    refine ⟨before, leaf, after, split, fault?_eq_some_iff.2 unfit, ?_⟩
    intro earlier member
    exact fault?_eq_none_iff.2 (fine earlier member)
  · rintro ⟨before, leaf, after, split, unfit, fine⟩
    refine ⟨before, leaf, after, split, ?_, fault?_eq_some_iff.1 unfit⟩
    intro earlier member
    exact fault?_eq_none_iff.1 (fine earlier member)

mutual

/-- No value is made of data that has an unfit leaf, and the first such leaf is told. -/
theorem coerce_eq_error_iff : ∀ {data : Plain} {fault : Fault},
    coerce data = .error fault ↔ data.leaves.findSome? fault? = some fault
  | list items, fault => by rw [coerce, map_eq_error_iff, coerceAll_eq_error_iff, leaves]
  | tuple items, fault => by rw [coerce, map_eq_error_iff, coerceAll_eq_error_iff, leaves]
  | range first beyond step, fault => by
    by_cases one : step = 1 <;> simp [coerce, leaves, fault?, one]
  | text s, _ => by simp [coerce, leaves, fault?]
  | bool b, _ => by simp [coerce, leaves, fault?]
  | int n, _ => by simp [coerce, leaves, fault?]
  | float x, _ => by simp [coerce, leaves, fault?]
  | absent, _ => by simp [coerce, leaves, fault?, kind]
  | table entries, _ => by simp [coerce, leaves, fault?, kind]
  | set members, _ => by simp [coerce, leaves, fault?, kind]
  | bytes content, _ => by simp [coerce, leaves, fault?, kind]
  | value v, _ => by simp [coerce, leaves, fault?]

theorem coerceAll_eq_error_iff : ∀ {data : List Plain} {fault : Fault},
    coerceAll data = .error fault ↔ (leavesAll data).findSome? fault? = some fault
  | [], fault => by simp [coerceAll, leavesAll]
  | x :: xs, fault => by
    rw [coerceAll, leavesAll, List.findSome?_append]
    cases first : coerce x with
    | error other =>
      rw [coerce_eq_error_iff.1 first]
      simp
    | ok v =>
      have fine : x.leaves.findSome? fault? = none := by
        rw [Option.eq_none_iff_forall_ne_some]
        intro other found
        rw [coerce_eq_error_iff.2 found] at first
        cases first
      rw [fine, Option.none_or, ← coerceAll_eq_error_iff]
      exact map_eq_error_iff

end

theorem exists_error_iff {data : Plain} :
    (∃ fault, coerce data = .error fault) ↔ ∃ leaf ∈ data.leaves, ∃ fault, Unfit leaf fault := by
  simp only [coerce_eq_error_iff, ← fault?_eq_some_iff, ← Option.isSome_iff_exists,
    List.findSome?_isSome_iff]

end Plain

/-! ## Commands -/

/-- The value that some data stands for, if there is one. -/
def Plain.value? (data : Plain) : Option Value := (coerce data).toOption

/-- The command that data by place and data by name stand for, if all of it stands for values. -/
def Command.ofPlain (data : List Plain × Bindings Plain) : Option Command :=
  match Plain.coerceAll data.1, data.2.map? Plain.value? with
  | .ok arguments, some bindings => some ⟨arguments, bindings⟩
  | _, _ => none

theorem Value.toPlainAll_eq_map (vs : List Value) : toPlainAll vs = vs.map toPlain := by
  induction vs with
  | nil => rfl
  | cons v vs ih => rw [toPlainAll, ih, List.map_cons]

theorem Command.ofPlain_toPlain (c : Command) : ofPlain c.toPlain = some c := by
  have back (v : Value) : Plain.value? v.toPlain = some v := by
    rw [Plain.value?, Plain.coerce_toPlain]
    rfl
  have arguments : Plain.coerceAll (c.arguments.map Value.toPlain) = .ok c.arguments := by
    rw [← Value.toPlainAll_eq_map, Plain.coerceAll_toPlainAll]
  have bindings : (c.bindings.map Value.toPlain).map? Plain.value? = some c.bindings :=
    Bindings.map?_map back c.bindings
  simp only [ofPlain, toPlain, arguments, bindings]

namespace Plain

/-- Values and commands are made again of the data that they stand for. No value is made of data
exactly if some leaf of it is unfit, and the first such leaf is told, as one of the wrong type
unless it is a range that can not be shown; what is made otherwise stands for the data it was made
of, but for tuples and values in it, and is made of itself again. -/
theorem coerce_inverse (v : Value) (c : Command) (data : Plain) :
    (coerce v.toPlain = .ok v ∧ (v.NaNFree → v.sameAs v = true)) ∧
    (Command.ofPlain c.toPlain = some c ∧ (c.NaNFree → c.sameAs c = true)) ∧
    ((∃ fault, coerce data = .error fault) ↔ ∃ leaf ∈ data.leaves, ∃ fault, Unfit leaf fault) ∧
    (∀ fault, coerce data = .error fault ↔ FirstUnfit data.leaves fault) ∧
    ((∃ fault, coerce data = .error fault ∧ fault.isOfType = true) ↔
      (∃ leaf ∈ data.leaves, ∃ fault, Unfit leaf fault) ∧
        ¬ FirstUnfit data.leaves .overlongRange) ∧
    ∀ made, coerce data = .ok made →
      made.toPlain = data.native ∧ coerce (.value made) = coerce data := by
  have told (fault : Fault) : coerce data = .error fault ↔ FirstUnfit data.leaves fault := by
    rw [coerce_eq_error_iff, firstUnfit_iff]
  refine ⟨⟨coerce_toPlain v, Value.sameAs_self⟩, ⟨c.ofPlain_toPlain, Command.sameAs_self⟩,
    exists_error_iff, told, ?_, ?_⟩
  · rw [← exists_error_iff, ← told]
    constructor
    · rintro ⟨fault, failed, typed⟩
      refine ⟨⟨fault, failed⟩, fun overlong => ?_⟩
      cases failed.symm.trans overlong
      cases typed
    · rintro ⟨⟨fault, failed⟩, shown⟩
      refine ⟨fault, failed, ?_⟩
      cases fault with
      | overlongRange => exact absurd failed shown
      | _ => rfl
  · intro made said
    exact ⟨toPlain_of_coerce said, said.symm⟩

theorem coerce_inverse_nested :
    coerce (.list [.bool true, .range 3 1 1, .list [.float (.zero true)]]) =
        .ok (.list [.bool true, .range 3 1, .list [.float (.zero true)]]) ∧
      (Value.list [.bool true, .range 3 1, .list [.float (.zero true)]]).sameAs
          (.list [.bool true, .range 3 1, .list [.float (.zero true)]]) = true ∧
    coerce (.tuple [.value (.list [.int 1]), .list [.range 5 2 (-1), .absent], .bytes [97, 98]]) =
        .error (.steppedRange 5 2 (-1)) ∧
    (Value.list [.list [.int 1], .list [.string ""]]).toPlain =
        .list [.list [.int 1], .list [.text ""]] := by
  let v : Value := .list [.bool true, .range 3 1, .list [.float (.zero true)]]
  let faulty : Plain :=
    .tuple [.value (.list [.int 1]), .list [.range 5 2 (-1), .absent], .bytes [97, 98]]
  obtain ⟨⟨made, same⟩, -, -, told, -⟩ := coerce_inverse v .empty faulty
  obtain ⟨-, -, -, -, -, native⟩ :=
    coerce_inverse v .empty (.tuple [.value (.list [.int 1]), .tuple [.text ""]])
  have numbers : v.NaNFree := ⟨trivial, trivial, ⟨Double.noConfusion, trivial⟩, trivial⟩
  have short : ∀ n ∈ [(5 : Int), 2, -1], n.natAbs < Nat.pow 10 Numeral.digitLimit := by
    have small : ∀ n ∈ [(5 : Int), 2, -1], n.natAbs < Nat.pow 10 1 := by decide
    have large {k : Nat} (positive : 0 < k) : Nat.pow 10 1 ≤ Nat.pow 10 k :=
      Nat.pow_le_pow_right (by decide) positive
    exact fun n member => Nat.lt_of_lt_of_le (small n member) (large (by decide))
  have first : FirstUnfit faulty.leaves (.steppedRange 5 2 (-1)) := by
    refine ⟨[.value (.list [.int 1])], .range 5 2 (-1), [.absent, .bytes [97, 98]], rfl, ?_,
      .steppedRange (by decide) short⟩
    intro earlier member other unfit
    obtain rfl := List.mem_singleton.1 member
    cases unfit
  exact ⟨made, same numbers, (told _).2 first, (native _ rfl).1⟩

/-- A range that leaves numbers out is not told as one of the wrong type if it goes up to a number
with one digit more than can be written. -/
theorem not_isOfType_overlong :
    ¬ ∀ data : Plain, (∃ leaf ∈ data.leaves, ∃ fault, Unfit leaf fault) →
      ∃ fault, coerce data = .error fault ∧ fault.isOfType = true := by
  intro every
  obtain ⟨n, long⟩ : ∃ n, Nat.pow 10 Numeral.digitLimit ≤ n := ⟨_, Nat.le_refl _⟩
  have unfit : Unfit (range 0 n 2) .overlongRange :=
    .overlongRange (by decide) (List.mem_cons_of_mem _ List.mem_cons_self) long
  have overlong : coerce (range 0 n 2) = .error .overlongRange := by
    rw [coerce, if_neg (by decide), (unfit_range_iff (by decide)).1 unfit]
  obtain ⟨fault, failed, typed⟩ :=
    every (range 0 n 2) ⟨range 0 n 2, List.mem_singleton_self _, _, unfit⟩
  cases overlong.symm.trans failed
  cases typed

end Plain

end CommandLine
