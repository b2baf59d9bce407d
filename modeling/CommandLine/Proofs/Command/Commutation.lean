import CommandLine.Proofs.Command.Concatenation
import CommandLine.Proofs.Command.WellFormed
import CommandLine.Proofs.Value.Comparison

/-!
# Lines that commute

Two lines that bind different names, and of which at most one has values by place, say the same in
either order (`Command.parse_append_comm`): the names stand in another order then, which neither
comparison nor hashing regards.
-/

namespace CommandLine
open CommandLine.Text

/-! ## No number that a line gives is NaN -/

namespace Value

mutual

theorem WellFormed.naNFree : ∀ {v : Value}, v.WellFormed → v.NaNFree
  | .string _, _ => trivial
  | .bool _, _ => trivial
  | .int _, _ => trivial
  | .float _, number => number
  | .list _, h => AllWellFormed.naNFree h.2
  | .range _ _, _ => trivial

theorem AllWellFormed.naNFree : ∀ {vs : List Value}, AllWellFormed vs → AllNaNFree vs
  | [], _ => trivial
  | _ :: _, h => ⟨h.1.naNFree, AllWellFormed.naNFree h.2⟩

end

theorem allWellFormed_iff {vs : List Value} : AllWellFormed vs ↔ ∀ v ∈ vs, v.WellFormed := by
  induction vs with
  | nil => simp [AllWellFormed]
  | cons v vs ih => simp [AllWellFormed, ih]

end Value

/-! ## Bindings on top of each other in either order -/

namespace Bindings

variable {α : Type} {b c d e : Bindings α} {same : α → α → Bool}

theorem mem_names_of_get? {name : String} {v : α} (found : b.get? name = some v) :
    name ∈ b.names :=
  List.mem_map_of_mem (mem_of_get? found)

/-- As many names are bound as in both, if none is bound in both. -/
theorem OnTop.length_names (h : OnTop b c d) (apart : List.Disjoint b.names c.names) :
    d.names.length = b.names.length + c.names.length := by
  have all : c.names.filter (· ∉ b.names) = c.names :=
    List.filter_eq_self.2 fun name member => by simpa using fun other => apart other member
  rw [h.names, all, List.length_append]

/-- Bindings of different names agree with themselves, whichever are made first. -/
theorem OnTop.agree_comm (above : OnTop b c d) (below : OnTop c b e)
    (apart : List.Disjoint b.names c.names)
    (refl : ∀ entry ∈ d.entries, same entry.2 entry.2 = true) : d.agree same e = true := by
  have lengths : d.entries.length = e.entries.length := by
    have counted (table : Bindings α) : table.entries.length = table.names.length := by
      simp [Bindings.names]
    rw [counted, counted, above.length_names apart,
      below.length_names (List.disjoint_symm apart), Nat.add_comm]
  have values (name : String) : e.get? name = d.get? name := by
    rw [above.values, below.values]
    cases first : b.get? name with
    | none => simp
    | some v =>
      cases second : c.get? name with
      | none => simp
      | some w => exact absurd (mem_names_of_get? second) (apart (mem_names_of_get? first))
  refine agree_iff.2 ⟨lengths, fun entry member => ⟨entry.2, ?_, ?_⟩⟩
  · rw [values, get?_of_mem member]
  · exact refl entry member

end Bindings

namespace Command

/-! ## Two lines -/

/-- What a command was read from: items whose integers fit. -/
theorem exists_items_of_ok {text : String} {command : Command} (said : parse text = .ok command) :
    ∃ items, Item.ofText text.toList = .ok items ∧
      (∀ l ∈ items.flatMap Item.literals, l.Fits) ∧ ofEntries (items.map Item.entry) = command := by
  cases read : Item.ofText text.toList with
  | error rejection => simp [parse_of_rejection read] at said
  | ok items => exact ⟨items, rfl, (parse_eq_ok_iff read).1 said⟩

/-- What is read to items whose integers fit is a well-formed command. -/
theorem wellFormed_of_ofText {cs : List Char} {items : List Item}
    (read : Item.ofText cs = .ok items) (fits : ∀ l ∈ items.flatMap Item.literals, l.Fits) :
    (ofEntries (items.map Item.entry)).WellFormed := by
  obtain ⟨readable, -⟩ := Item.readable_and_layout_of_ofText read
  refine wellFormed_ofEntries (List.forall_mem_map.2 fun item among => ?_)
  exact wellFormed_entry (readable item among) fun l inside =>
    fits l (List.mem_flatMap.2 ⟨item, among, inside⟩)

/-- Two lines that both give commands give one together. -/
theorem parse_append_of_ok {a b gap : String} {first second : Command}
    (accepted : parse a = .ok first) (blank : Blank gap.toList) (apart : gap ≠ "")
    (accepted' : parse b = .ok second) :
    ∃ both, parse (a ++ gap ++ b) = .ok both ∧
      both.arguments = first.arguments ++ second.arguments ∧
      Bindings.OnTop first.bindings second.bindings both.bindings := by
  have apart : gap.toList ≠ [] := by simpa using apart
  obtain ⟨items, read, fit, rfl⟩ := exists_items_of_ok accepted
  obtain ⟨more, reads, fits, rfl⟩ := exists_items_of_ok accepted'
  have fine : (more.flatMap Item.literals).findSome? (Literal.failure? b) = none :=
    List.findSome?_eq_none_iff.2 fun l member => Literal.failure?_eq_none_iff.2 (fits l member)
  have said := parse_append_of_ofText read fit blank apart reads
  rw [fine] at said
  exact ⟨_, said, ofEntries_append _ _⟩

/-- Commands with the same values by place, whose bindings are two tables one on top of the other,
compare equal whichever of the tables comes first. -/
theorem sameAs_of_onTop {b c : Bindings Value} {both turned : Command} (sound : both.WellFormed)
    (arguments : both.arguments = turned.arguments) (above : Bindings.OnTop b c both.bindings)
    (below : Bindings.OnTop c b turned.bindings) (apart : List.Disjoint b.names c.names) :
    both.sameAs turned = true := by
  refine Bool.and_eq_true_iff.2 ⟨?_, ?_⟩
  · rw [← arguments]
    exact Value.sameAll_self (Value.allWellFormed_iff.2 sound.arguments).naNFree
  · exact above.agree_comm below apart fun e member =>
      Value.sameAs_self (sound.bindings e member).2.naNFree

/-- Lines that bind different names, of which at most one has values by place, can be written in
either order, with whatever blanks between: both ways give a command, the two commands are equal,
and a set of them has one element. -/
theorem parse_append_comm {a b gap : String} {first second : Command}
    (accepted : parse a = .ok first) (accepted' : parse b = .ok second)
    (names : List.Disjoint first.bindings.names second.bindings.names)
    (places : first.arguments = [] ∨ second.arguments = [])
    (blank : Blank gap.toList) (apart : gap ≠ "") :
    ∃ both turned, parse (a ++ gap ++ b) = .ok both ∧ parse (b ++ gap ++ a) = .ok turned ∧
      both.sameAs turned = true ∧ turned.sameAs both = true ∧
      ∀ hashing : Hashing, hashing.countDistinct [both, turned] = 1 := by
  obtain ⟨both, said, arguments, above⟩ := parse_append_of_ok accepted blank apart accepted'
  obtain ⟨turned, said', arguments', below⟩ := parse_append_of_ok accepted' blank apart accepted
  have same : both.arguments = turned.arguments := by
    rw [arguments, arguments']
    rcases places with none | none <;> simp [none]
  obtain ⟨_, read, fits, entries⟩ := exists_items_of_ok said
  obtain ⟨_, read', fits', entries'⟩ := exists_items_of_ok said'
  have equal : both.sameAs turned = true :=
    sameAs_of_onTop (entries ▸ wellFormed_of_ofText read fits) same above below names
  have equal' : turned.sameAs both = true :=
    sameAs_of_onTop (entries' ▸ wellFormed_of_ofText read' fits') same.symm below above
      (List.disjoint_symm names)
  refine ⟨both, turned, said, said', equal, equal', fun hashing => ?_⟩
  rw [hashing.countDistinct_eq]
  simp [countDistinct, equal]

theorem parse_append_comm_nested : ∃ first second both turned,
    parse "f:1.0 x:[..2,[-0.0,\"y\\\"\"]] -g" = .ok first ∧ parse "z h:tRue h:[1] z" = .ok second ∧
      parse ("f:1.0 x:[..2,[-0.0,\"y\\\"\"]] -g" ++ "\n " ++ "z h:tRue h:[1] z") = .ok both ∧
      parse ("z h:tRue h:[1] z" ++ "\n " ++ "f:1.0 x:[..2,[-0.0,\"y\\\"\"]] -g") = .ok turned ∧
      both.sameAs turned = true ∧ Hashing.sums.countDistinct [both, turned] = 1 := by
  obtain ⟨first, accepted⟩ : ∃ first, parse "f:1.0 x:[..2,[-0.0,\"y\\\"\"]] -g" = .ok first :=
    exists_ok_of_isOk (by decide +kernel)
  obtain ⟨second, accepted'⟩ : ∃ second, parse "z h:tRue h:[1] z" = .ok second :=
    exists_ok_of_isOk (by decide +kernel)
  have names : ((parse "f:1.0 x:[..2,[-0.0,\"y\\\"\"]] -g").toOption.map fun c =>
      (c.bindings.names, c.arguments.length)) = some (["f", "x", "g"], 0) := by
    decide +kernel
  have names' : ((parse "z h:tRue h:[1] z").toOption.map fun c => c.bindings.names) =
      some ["h"] := by
    decide +kernel
  simp only [accepted, accepted', Except.toOption, Option.map_some, Option.some.injEq,
    Prod.mk.injEq, List.length_eq_zero_iff] at names names'
  have apart : List.Disjoint first.bindings.names second.bindings.names := by
    rw [names.1, names']
    simp [List.Disjoint]
  have blank : Blank "\n ".toList := by
    intro c member
    exact List.all_eq_true.1 (by decide : "\n ".toList.all isBlank = true) c member
  obtain ⟨both, turned, said, said', equal, -, sets⟩ :=
    parse_append_comm accepted accepted' apart (.inl names.2) blank (by decide)
  exact ⟨first, second, both, turned, accepted, accepted', said, said', equal, sets _⟩

end Command

end CommandLine
