import CommandLine.Command.Check
import CommandLine.Proofs.Command.Literal

/-!
# Commands that lines give

Whatever a line says is well formed, at every depth of its lists: integers have 64 bits, lists have
items, numbers are numbers, and names are such that they can be written before a colon
(`Command.wellFormed_of_parse`).
-/

namespace CommandLine
open CommandLine.Text CommandLine.Numeral

/-! ## Values -/

namespace Value

mutual

/-- A value that a line can give. A string that ends in a backslash cannot be written between
quotes, so it is one that is written without. -/
def WellFormed : Value → Prop
  | string s => s.toList.getLast? = some '\\' →
      s ≠ "" ∧ ∀ c ∈ s.toList, isBlank c = false ∧ c ≠ '[' ∧ c ≠ ']' ∧ c ≠ ','
  | bool _ => True
  | int n => IsInt64 n
  | float x => x ≠ .nan
  | list items => items ≠ [] ∧ AllWellFormed items
  | range first beyond => IsInt64 first ∧ IsInt64 beyond

def AllWellFormed : List Value → Prop
  | [] => True
  | v :: vs => WellFormed v ∧ AllWellFormed vs

end

end Value

theorem Literal.Fits.isInt64 {l : Literal} (h : l.Fits) : Value.IsInt64 (valueOf l.text) :=
  ⟨h.least, h.greatest⟩

/-- The value of a token is well formed if its integers fit. -/
theorem Scalar.wellFormed_meaning {form : Scalar} {token : Token} {sought : Terminal → Bool}
    (h : token.Reads sought (.scalar form)) (fits : ∀ l ∈ form.literals token, l.Fits) :
    (form.meaning token.text).WellFormed := by
  obtain ⟨-, found⟩ := h
  obtain ⟨scanned, -⟩ := Item.follow_of_firstScan found
  have body := (Scanner.before_eq_some.1 scanned).1
  cases form with
  | range =>
    have both := List.forall_mem_cons.1 fits
    exact ⟨both.1.isInt64, (List.forall_mem_singleton.1 both.2).isInt64⟩
  | rangeTo =>
    have zero : Value.IsInt64 0 := ⟨by decide, by decide⟩
    exact ⟨zero, (List.forall_mem_singleton.1 fits).isInt64⟩
  | bool => exact trivial
  | float =>
    obtain ⟨negative, ds, exponent, read⟩ := Terminal.read?_of_float body
    show (Double.read? token.text.toList).getD .nan ≠ .nan
    rw [read]
    exact Terminal.ofDecimal_ne_nan negative ds exponent
  | int => exact (List.forall_mem_singleton.1 fits).isInt64
  | quoted =>
    -- A backslash at the end would have kept the closing quote from closing.
    intro last
    obtain ⟨inside, text, closed, -⟩ := Terminal.quoted_body_eq_some.1 body
    have decoded : decodeString token.text.toList = unescapeQuotes inside := by
      rw [text, decodeString]
      simp
    rw [String.toList_ofList, decoded] at last
    exact absurd last (Terminal.getLast?_unescapeQuotes (Terminal.getLast?_of_inside closed))
  | bareword =>
    intro last
    constructor
    · rintro empty
      simp [empty] at last
    · intro c member
      have bare := Terminal.isBare_of_bareword body c member
      simpa [Terminal.isBare, and_assoc] using bare

namespace Phrase

mutual

theorem wellFormed_meaning : ∀ (p : Phrase) {sought : Terminal → Bool}, p.Readable sought →
    (∀ l ∈ p.literals, l.Fits) → p.meaning.WellFormed
  | .scalar form token, _, h, fits => Scalar.wellFormed_meaning h fits
  | .list [], _, h, _ => absurd rfl h.1
  | .list (p :: ps), _, h, fits => ⟨by simp [meanings], wellFormed_meanings (p :: ps) h.2 fits⟩

theorem wellFormed_meanings : ∀ ps : List Phrase, AllReadable ps →
    (∀ l ∈ literalsAll ps, l.Fits) → Value.AllWellFormed (meanings ps)
  | [], _, _ => trivial
  | p :: ps, h, fits => by
    obtain ⟨first, others⟩ := List.forall_mem_append.1 fits
    exact ⟨wellFormed_meaning p h.1 first, wellFormed_meanings ps h.2 others⟩

end

end Phrase

/-! ## Names -/

namespace Token.Reads

variable {sought : Terminal → Bool} {token : Token}

theorem isName_key (h : token.Reads sought .key) :
    Terminal.IsName (Command.keyName token.text).toList := by
  obtain ⟨scanned, -⟩ := Item.follow_of_firstScan h.2
  rw [Command.keyName, String.toList_ofList]
  exact Terminal.isName_of_key (Scanner.before_eq_some.1 scanned).1

theorem isName_flag (h : token.Reads sought .flag) :
    Terminal.IsName (Command.flagName token.text).toList := by
  obtain ⟨scanned, -⟩ := Item.follow_of_firstScan h.2
  rw [Command.flagName, String.toList_ofList]
  exact Terminal.isName_of_flag scanned

end Token.Reads

namespace Bindings

variable {α : Type}

theorem mem_insert {b : Bindings α} {name : String} {value : α} {e : String × α}
    (h : e ∈ (b.insert name value).entries) : e ∈ b.entries ∨ e = (name, value) := by
  unfold insert at h
  split at h
  · obtain ⟨e', member, rfl⟩ := List.mem_map.1 h
    by_cases here : e'.1 = name
    · exact .inr (if_pos here)
    · rw [if_neg here]
      exact .inl member
  · rcases List.mem_append.1 h with before | last
    · exact .inl before
    · exact .inr (List.mem_singleton.1 last)

theorem mem_foldl_insert {entries : List (String × α)} {b : Bindings α} {e : String × α}
    (h : e ∈ (entries.foldl (fun b e => b.insert e.1 e.2) b).entries) :
    e ∈ b.entries ∨ e ∈ entries := by
  induction entries generalizing b with
  | nil => exact .inl h
  | cons first entries ih =>
    rcases ih h with before | later
    · rcases mem_insert before with before | rfl
      · exact .inl before
      · exact .inr List.mem_cons_self
    · exact .inr (List.mem_cons_of_mem _ later)

/-- What is bound was among what was to be bound. -/
theorem mem_ofList {entries : List (String × α)} {e : String × α}
    (h : e ∈ (ofList entries).entries) : e ∈ entries := by
  rcases mem_foldl_insert h with impossible | member
  · exact absurd impossible List.not_mem_nil
  · exact member

end Bindings

/-! ## Commands -/

/-- Nothing is wrong with a command unless it binds the empty name. -/
theorem Candidate.violation?_ofCommand_eq_none_iff {c : Command} :
    (ofCommand c).violation? = none ↔ "" ∉ c.bindings.names := by
  have values : (c.arguments.map Plain.value).find? (!isValue ·) = none := by
    rw [List.find?_eq_none]
    intro data member
    obtain ⟨v, -, rfl⟩ := List.mem_map.1 member
    simp [isValue]
  have step (e : String × Value) :
      bindingViolation? e.1 (.value e.2) = none ↔ e.1 ≠ "" := by
    simp [bindingViolation?, isValue]
  simp only [ofCommand, violation?, values, Bindings.map, List.findSome?_map,
    List.findSome?_eq_none_iff, Function.comp_apply, step, Bindings.names, List.mem_map, not_exists,
    not_and]

namespace Command

/-- An entry that a line can give. -/
def Entry.WellFormed : Entry Value → Prop
  | .argument v => v.WellFormed
  | .binding name v => Terminal.IsName name.toList ∧ v.WellFormed

theorem wellFormed_entry {item : Item} (h : item.Readable) (fits : ∀ l ∈ item.literals, l.Fits) :
    item.entry.WellFormed := by
  cases item with
  | keyword key phrase => exact ⟨h.1.isName_key, phrase.wellFormed_meaning h.2 fits⟩
  | flag token => exact ⟨h.isName_flag, trivial⟩
  | value phrase => exact phrase.wellFormed_meaning h fits

/-- A command that a line can give. -/
structure WellFormed (c : Command) : Prop where
  arguments : ∀ v ∈ c.arguments, v.WellFormed
  bindings : ∀ e ∈ c.bindings.entries, Terminal.IsName e.1.toList ∧ e.2.WellFormed
  distinct : c.bindings.names.Nodup
  checked : (Candidate.ofCommand c).violation? = none

theorem wellFormed_ofEntries {entries : List (Entry Value)} (h : ∀ e ∈ entries, e.WellFormed) :
    (ofEntries entries).WellFormed := by
  have bound : ∀ e ∈ (ofEntries entries).bindings.entries,
      Terminal.IsName e.1.toList ∧ e.2.WellFormed := by
    intro e member
    obtain ⟨entry, among, same⟩ := List.mem_filterMap.1 (Bindings.mem_ofList member)
    have good := h entry among
    cases entry with
    | argument v => cases same
    | binding name v =>
      cases same
      exact good
  refine ⟨?_, bound, (ofEntries entries).bindings.distinct, ?_⟩
  · intro v member
    obtain ⟨entry, among, same⟩ := List.mem_filterMap.1 member
    have good := h entry among
    cases entry with
    | argument v =>
      cases same
      exact good
    | binding name v => cases same
  · rw [Candidate.violation?_ofCommand_eq_none_iff]
    intro nameless
    obtain ⟨e, member, empty⟩ := List.mem_map.1 nameless
    have named := (bound e member).1.nonempty
    simp [empty] at named

/-- Every command that a line gives is well formed. -/
theorem wellFormed_of_parse {text : String} {command : Command}
    (said : parse text = .ok command) : command.WellFormed := by
  cases read : Item.ofText text.toList with
  | error rejection => simp [parse_of_rejection read] at said
  | ok items =>
    obtain ⟨fits, rfl⟩ := (parse_eq_ok_iff read).1 said
    obtain ⟨readable, -⟩ := Item.readable_and_layout_of_ofText read
    apply wellFormed_ofEntries
    intro entry member
    obtain ⟨item, among, rfl⟩ := List.mem_map.1 member
    refine wellFormed_entry (readable item among) fun l inside => ?_
    exact fits l (List.mem_flatMap.2 ⟨item, among, inside⟩)

theorem wellFormed_of_parse_nested :
    ∃ command, parse "a\\ \"\\\"\" -f x:[..2,[-1.5e400]] x:[1]" = .ok command ∧
      command.WellFormed := by
  obtain ⟨command, said⟩ :
      ∃ command, parse "a\\ \"\\\"\" -f x:[..2,[-1.5e400]] x:[1]" = .ok command :=
    exists_ok_of_isOk (by decide +kernel)
  exact ⟨command, said, wellFormed_of_parse said⟩

end Command

end CommandLine
