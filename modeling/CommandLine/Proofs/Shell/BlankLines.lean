import CommandLine.Proofs.Command.Assembly
import CommandLine.Proofs.Command.Commutation
import CommandLine.Proofs.Shell.Session
import Mathlib.Tactic.TFAE

/-!
# Blank lines

The reader of trees, the reader of commands, the split at the first word and the shell each decide
by themselves whether there is nothing on a line. They agree: `Shell.blank_tfae`.
-/

namespace CommandLine
open CommandLine.Text

/-! ## Trees -/

/-- A line without items is blank: each item has a lexeme that is not. -/
theorem Item.ofText_eq_nil_iff {cs : List Char} : ofText cs = .ok [] ↔ Blank cs := by
  constructor
  · intro accepted
    obtain ⟨-, layout⟩ := readable_and_layout_of_ofText accepted
    rw [List.flatMap_nil] at layout
    cases layout with
    | blank blank => exact blank
  · intro blank
    rw [ofText, readFrom_end (skipBlanks_eq_nil_iff.2 blank)]
    rfl

theorem Tree.parse_eq_childless_iff {line : String} :
    (∃ label, parse line = .ok (.node label [])) ↔ Blank line.toList := by
  rw [← Item.ofText_eq_nil_iff]
  constructor
  · rintro ⟨label, read⟩
    obtain ⟨items, accepted, made⟩ := parse_eq_ok_iff.1 read
    have children : items.map ofItem = [] := (Tree.node.inj made).2
    rw [List.map_eq_nil_iff.1 children] at accepted
    exact accepted
  · intro accepted
    exact ⟨.rule .command, parse_eq_ok_iff.2 ⟨[], accepted, rfl⟩⟩

/-! ## Commands -/

theorem Bindings.entries_ofList_eq_nil_iff {α : Type} {entries : List (String × α)} :
    (ofList entries).entries = [] ↔ entries = [] := by
  constructor
  · intro nothing
    have unnamed : (entries.map Prod.fst).eraseDups = [] := by
      rw [← names_ofList, names, nothing, List.map_nil]
    refine List.eq_nil_iff_forall_not_mem.2 fun entry member => ?_
    have named : entry.1 ∈ (entries.map Prod.fst).eraseDups :=
      List.mem_eraseDups.2 (List.mem_map_of_mem member)
    rw [unnamed] at named
    exact List.not_mem_nil named
  · intro nothing
    rw [nothing]
    rfl

namespace Command

/-- Whatever is said leaves something in the command: a value by place or a name. -/
theorem ofEntries_empty_iff {entries : List (Entry Value)} :
    (ofEntries entries).arguments = [] ∧ (ofEntries entries).bindings.entries = [] ↔
      entries = [] := by
  constructor
  · rintro ⟨arguments, bindings⟩
    have bindings : entries.filterMap Entry.binding? = [] :=
      Bindings.entries_ofList_eq_nil_iff.1 bindings
    cases entries with
    | nil => rfl
    | cons entry rest =>
      cases entry with
      | argument v => cases arguments
      | binding name v => cases bindings
  · intro nothing
    rw [nothing]
    exact ⟨rfl, rfl⟩

theorem parse_empty_iff {line : String} :
    (∃ command, parse line = .ok command ∧ command.arguments = [] ∧
      command.bindings.entries = []) ↔ Blank line.toList := by
  rw [← Item.ofText_eq_nil_iff]
  constructor
  · rintro ⟨command, said, empty⟩
    obtain ⟨items, accepted, -, made⟩ := exists_items_of_ok said
    rw [← made, ofEntries_empty_iff, List.map_eq_nil_iff] at empty
    rw [empty] at accepted
    exact accepted
  · intro accepted
    have said : parse line = .ok (ofEntries []) := parse_of_ofText accepted
    exact ⟨_, said, ofEntries_empty_iff.2 rfl⟩

end Command

/-! ## The shell -/

namespace Shell

variable {showTree : Bool} {line : String}

/-- After a line that was parsed the session goes on only if something was shown. -/
theorem replyParsed_shows (goesOn : (replyParsed showTree line).next = .goOn) :
    (replyParsed showTree line).blocks ≠ [] := by
  unfold replyParsed at goesOn ⊢
  cases read : Tree.parse line with
  | error error => simp
  | ok tree =>
    rw [read] at goesOn
    dsimp only at goesOn ⊢
    cases made : Command.ofTree line tree with
    | ok command => simp
    | error failure =>
      rw [made] at goesOn
      cases failure with
      | line error => simp
      | tree fault => cases goesOn

theorem reply_of_blank (blank : Blank line.toList) : reply showTree line = ⟨[], [], .goOn⟩ := by
  have nothing : firstWord line = "" := firstWord_eq_empty_iff.2 blank
  unfold reply
  rw [nothing]
  rfl

/-- Only a blank line is passed over. -/
theorem blank_of_reply (silent : (reply showTree line).blocks = [])
    (goesOn : (reply showTree line).next = .goOn) : Blank line.toList := by
  by_cases asked : firstWord line ∈ helpWords
  · rw [reply, if_pos asked] at silent
    cases silent
  · by_cases exits : firstWord line ∈ exitWords
    · rw [reply_of_exit exits] at goesOn
      cases goesOn
    · by_cases nothing : firstWord line = ""
      · exact firstWord_eq_empty_iff.1 nothing
      · rw [reply, if_neg asked, if_neg exits, if_neg nothing] at silent goesOn
        exact absurd silent (replyParsed_shows goesOn)

/-- What a blank line is, to whoever looks at it: the tree has no children, the command has neither
values by place nor names, the first word is empty, and the shell passes over the line, which is to
say that it goes on and shows nothing. -/
theorem blank_tfae (showTree : Bool) (line : String) :
    List.TFAE [
      Blank line.toList,
      ∃ label, Tree.parse line = .ok (.node label []),
      ∃ command, Command.parse line = .ok command ∧ command.arguments = [] ∧
        command.bindings.entries = [],
      (splitFirstWord line.toList).1 = [],
      reply showTree line = ⟨[], [], .goOn⟩,
      (reply showTree line).blocks = [] ∧ (reply showTree line).next = .goOn] := by
  tfae_have 1 ↔ 2 := Tree.parse_eq_childless_iff.symm
  tfae_have 1 ↔ 3 := Command.parse_empty_iff.symm
  tfae_have 1 ↔ 4 := by
    rw [← firstWord_eq_empty_iff, firstWord, String.ofList_eq_empty_iff]
  tfae_have 1 → 5 := reply_of_blank
  tfae_have 5 → 6 := by
    intro passed
    rw [passed]
    exact ⟨rfl, rfl⟩
  tfae_have 6 → 1 := by
    rintro ⟨silent, goesOn⟩
    exact blank_of_reply silent goesOn
  tfae_finish

end Shell

end CommandLine
