/-!
# Bindings

Named values in order. Each name occurs once. Binding a name again replaces its value
(`get?_insert`) and keeps its place (`names_insert`).
-/

namespace CommandLine

/-- Named values in order, with distinct names. -/
structure Bindings (α : Type) where
  entries : List (String × α)
  distinct : (entries.map Prod.fst).Nodup

namespace Bindings

variable {α β : Type}

/-- No bindings. -/
def empty : Bindings α := ⟨[], by simp⟩

/-- The names, in order. -/
def names (b : Bindings α) : List String := b.entries.map Prod.fst

/-- The value of a name. -/
def get? (b : Bindings α) (name : String) : Option α := b.entries.lookup name

/-- Entries with the value of one name replaced. -/
def replace (name : String) (value : α) (entries : List (String × α)) : List (String × α) :=
  entries.map fun e => if e.1 = name then (name, value) else e

theorem map_fst_replace (name : String) (value : α) (entries : List (String × α)) :
    (replace name value entries).map Prod.fst = entries.map Prod.fst := by
  simp only [replace, List.map_map]
  apply List.map_congr_left
  intro e _
  by_cases h : e.1 = name <;> simp [h]

/-- Binds a name: in its place if it has one, else behind all others. -/
def insert (b : Bindings α) (name : String) (value : α) : Bindings α :=
  if h : name ∈ b.names then
    ⟨replace name value b.entries, by rw [map_fst_replace]; exact b.distinct⟩
  else
    ⟨b.entries ++ [(name, value)], by
      rw [List.map_append, List.nodup_append]
      refine ⟨b.distinct, by simp, ?_⟩
      intro x hx y hy e
      have : y = name := by simpa using hy
      exact h (this ▸ e ▸ hx)⟩

/-- A name keeps its place, and a new one takes the last. -/
theorem names_insert (b : Bindings α) (name : String) (value : α) :
    (b.insert name value).names = if name ∈ b.names then b.names else b.names ++ [name] := by
  unfold insert
  split <;> simp [names, map_fst_replace, *]

theorem lookup_replace_of_ne {name other : String} (h : other ≠ name) (value : α)
    (entries : List (String × α)) :
    (replace name value entries).lookup other = entries.lookup other := by
  induction entries with
  | nil => rfl
  | cons e entries ih =>
    have step : replace name value (e :: entries) =
        (if e.1 = name then (name, value) else e) :: replace name value entries := rfl
    have apart : (other == name) = false := by simpa using h
    rw [step, List.lookup_cons, List.lookup_cons, ih]
    by_cases here : e.1 = name <;> simp [here, apart]

theorem lookup_replace_self {name : String} {entries : List (String × α)}
    (present : name ∈ entries.map Prod.fst) (value : α) :
    (replace name value entries).lookup name = some value := by
  induction entries with
  | nil => simp at present
  | cons e entries ih =>
    have step : replace name value (e :: entries) =
        (if e.1 = name then (name, value) else e) :: replace name value entries := rfl
    rw [step, List.lookup_cons]
    by_cases here : e.1 = name
    · simp [here]
    · have later : name ∈ entries.map Prod.fst := by
        rcases List.mem_cons.1 present with same | later
        · exact absurd same.symm here
        · exact later
      have apart : (name == e.1) = false := by simpa using Ne.symm here
      simp [here, apart, ih later]

theorem lookup_eq_none {name : String} {entries : List (String × α)}
    (missing : name ∉ entries.map Prod.fst) : entries.lookup name = none := by
  rw [List.lookup_eq_none_iff]
  intro e he
  simpa using fun same : name = e.1 => missing (same ▸ List.mem_map_of_mem he)

/-- A name has the value that it was bound to last. -/
theorem get?_insert (b : Bindings α) (name : String) (value : α) (other : String) :
    (b.insert name value).get? other = if other = name then some value else b.get? other := by
  by_cases asked : other = name <;> by_cases present : name ∈ b.names
  · subst asked
    simp [insert, get?, present, lookup_replace_self present]
  · subst asked
    simp [insert, get?, present, List.lookup_append, lookup_eq_none present]
  · simp [insert, get?, present, asked, lookup_replace_of_ne asked]
  · have apart : (other == name) = false := by simpa using asked
    simp [insert, get?, present, asked, List.lookup_append, List.lookup_cons, apart]

/-- Bindings made one after the other. -/
def ofList (entries : List (String × α)) : Bindings α :=
  entries.foldl (fun b e => b.insert e.1 e.2) empty

/-- The same names with other values. -/
def map (f : α → β) (b : Bindings α) : Bindings β :=
  ⟨b.entries.map fun e => (e.1, f e.2), by
    have : (b.entries.map fun e => (e.1, f e.2)).map Prod.fst = b.entries.map Prod.fst := by
      simp [List.map_map, Function.comp_def]
    rw [this]; exact b.distinct⟩

/-- Replacing a value goes with changing all of them. -/
theorem map_replace (f : α → β) (name : String) (value : α) (entries : List (String × α)) :
    (replace name value entries).map (fun e => (e.1, f e.2)) =
      replace name (f value) (entries.map fun e => (e.1, f e.2)) := by
  simp only [replace, List.map_map]
  apply List.map_congr_left
  intro e _
  by_cases h : e.1 = name <;> simp [h]

theorem names_map (f : α → β) (b : Bindings α) : (b.map f).names = b.names := by
  simp [names, map, Function.comp_def]

/-- Binding a name goes with changing all values. -/
theorem map_insert (f : α → β) (b : Bindings α) (name : String) (value : α) :
    (b.insert name value).map f = (b.map f).insert name (f value) := by
  unfold insert
  simp only [names_map]
  split <;> simp [map, map_replace]

theorem map_foldl_insert (f : α → β) (entries : List (String × α)) (b : Bindings α) :
    (entries.foldl (fun b e => b.insert e.1 e.2) b).map f =
      (entries.map fun e => (e.1, f e.2)).foldl (fun b e => b.insert e.1 e.2) (b.map f) := by
  induction entries generalizing b with
  | nil => rfl
  | cons e entries ih => simp only [List.foldl_cons, List.map_cons, ih, map_insert]

/-- Changing the values of bindings made one after the other. -/
theorem map_ofList (f : α → β) (entries : List (String × α)) :
    (ofList entries).map f = ofList (entries.map fun e => (e.1, f e.2)) :=
  map_foldl_insert f entries empty

/-- The entries with other values, if there is one for each. -/
def mapEntries? (f : α → Option β) : List (String × α) → Option (List (String × β))
  | [] => some []
  | (name, value) :: rest =>
    match f value with
    | none => none
    | some result => (mapEntries? f rest).map ((name, result) :: ·)

theorem map_fst_mapEntries? {f : α → Option β} {entries : List (String × α)}
    {results : List (String × β)} (h : mapEntries? f entries = some results) :
    results.map Prod.fst = entries.map Prod.fst := by
  induction entries generalizing results with
  | nil => simp_all [mapEntries?]
  | cons e entries ih =>
    obtain ⟨name, value⟩ := e
    rw [mapEntries?] at h
    split at h
    · simp at h
    · obtain ⟨rest, step, rfl⟩ := Option.map_eq_some_iff.1 h
      simp [ih step]

/-- The same names with other values, if there is one for each. -/
def map? (f : α → Option β) (b : Bindings α) : Option (Bindings β) :=
  match h : mapEntries? f b.entries with
  | none => none
  | some entries => some ⟨entries, by rw [map_fst_mapEntries? h]; exact b.distinct⟩

theorem mapEntries?_map {f : β → Option α} {g : α → β} (back : ∀ x, f (g x) = some x)
    (entries : List (String × α)) :
    mapEntries? f (entries.map fun e => (e.1, g e.2)) = some entries := by
  induction entries with
  | nil => rfl
  | cons e entries ih => simp [mapEntries?, back, ih]

/-- Values that were changed can be changed back. -/
theorem map?_map {f : β → Option α} {g : α → β} (back : ∀ x, f (g x) = some x)
    (b : Bindings α) : (b.map g).map? f = some b := by
  have entries : mapEntries? f (b.map g).entries = some b.entries := mapEntries?_map back b.entries
  unfold map?
  split <;> simp_all

/-- Whether two bindings bind the same names to related values, in whatever order. -/
def agree (same : α → β → Bool) (b : Bindings α) (c : Bindings β) : Bool :=
  b.entries.length == c.entries.length && b.entries.all fun e =>
    match c.get? e.1 with
    | some value => same e.2 value
    | none => false

end Bindings

end CommandLine
