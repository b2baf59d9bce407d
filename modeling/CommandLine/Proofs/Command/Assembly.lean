import CommandLine.Proofs.Tree.PostOrder
import Mathlib.Data.List.Induction
import Mathlib.Data.List.Forall2

/-!
# Assembling commands

A command is assembled from the items of a tree one after the other: values go behind each other,
names keep their first place and take their last value, and the first item that fails ends it all
with its failure (`Command.assemble_of_shaped`). Trees may be made by hand, with anything below
their items.
-/

namespace CommandLine

/-! ## Bindings made one after the other -/

namespace Bindings

variable {α : Type}

theorem ofList_append_singleton (entries : List (String × α)) (e : String × α) :
    ofList (entries ++ [e]) = (ofList entries).insert e.1 e.2 := by
  simp [ofList, List.foldl_append]

/-- Every name is bound once, at the place of its first binding. -/
theorem names_ofList (entries : List (String × α)) :
    (ofList entries).names = (entries.map Prod.fst).eraseDups := by
  induction entries using List.reverseRecOn with
  | nil => rfl
  | append_singleton entries e ih =>
    rw [ofList_append_singleton, names_insert, ih, List.map_append, List.map_singleton,
      List.eraseDups_append]
    by_cases bound : e.1 ∈ entries.map Prod.fst
    · rw [if_pos (List.mem_eraseDups.2 bound)]
      simp [List.removeAll, bound]
    · rw [if_neg (mt List.mem_eraseDups.1 bound)]
      simp [List.removeAll, bound, List.eraseDups_cons]

/-- Every name has the value of its last binding. -/
theorem get?_ofList (entries : List (String × α)) (name : String) :
    (ofList entries).get? name = entries.reverse.lookup name := by
  induction entries using List.reverseRecOn with
  | nil => rfl
  | append_singleton entries e ih =>
    rw [ofList_append_singleton, get?_insert, ih, List.reverse_append, List.reverse_singleton,
      List.singleton_append, List.lookup_cons]
    by_cases asked : name = e.1
    · simp [asked]
    · have apart : (name == e.1) = false := by simpa using asked
      simp [asked, apart]

end Bindings

namespace Command
open CommandLine.Tree (Helpers conversion?)

variable {helpers : Helpers} {text : String}

/-! ## What items say -/

/-- Items with the parts that their labels ask for: a token and a value for a keyword, a token for a
flag. -/
inductive Shaped : Tree → Prop
  | keyword {label : Label} {key : Tree} {word : String} (value : Tree) :
      label.rule? = some .keyword → key.text? = some word → Shaped (.node label [key, value])
  | flag {label : Label} {token : Tree} {word : String} :
      label.rule? = some .flag → token.text? = some word → Shaped (.node label [token])
  | value {label : Label} (parts : List Tree) :
      label.rule? = some .value → Shaped (.node label parts)
  | other {label : Label} (parts : List Tree) :
      label.rule? ∉ [some .keyword, some .flag, some .value] → Shaped (.node label parts)

/-- What an item says if it converts. -/
inductive Says (helpers : Helpers) (text : String) : Tree → Entry Tree.Piece → Prop
  | keyword {label : Label} {key value : Tree} {word : String} {piece : Tree.Piece} :
      label.rule? = some .keyword → key.text? = some word →
      pieceOf helpers text value = .ok piece →
      Says helpers text (.node label [key, value]) (.binding (keyName word) piece)
  | flag {label : Label} {token : Tree} {word : String} :
      label.rule? = some .flag → token.text? = some word →
      Says helpers text (.node label [token]) (.binding (flagName word) (.value (.bool true)))
  | value {label : Label} {parts : List Tree} {piece : Tree.Piece} :
      label.rule? = some .value → pieceOf helpers text (.node label parts) = .ok piece →
      Says helpers text (.node label parts) (.argument piece)

/-- How an item fails: as the first node or token of its value that fails by itself, or for a label
that no item has. -/
inductive Fails (helpers : Helpers) (text : String) : Tree → Failure → Prop
  | keyword {label : Label} {key value : Tree} {word : String} {failure : Failure} :
      label.rule? = some .keyword → key.text? = some word →
      FirstFails helpers text value.postorder failure →
      Fails helpers text (.node label [key, value]) failure
  | value {label : Label} {parts : List Tree} {failure : Failure} :
      label.rule? = some .value →
      FirstFails helpers text (Tree.node label parts).postorder failure →
      Fails helpers text (.node label parts) failure
  | other {label : Label} {parts : List Tree} :
      label.rule? ∉ [some .keyword, some .flag, some .value] →
      Fails helpers text (.node label parts) (.tree (.unexpectedItem label))

theorem Says.entryOf_eq {item : Tree} {entry : Entry Tree.Piece}
    (h : Says helpers text item entry) : entryOf helpers text item = .ok entry := by
  cases h with
  | keyword named token said => simp [entryOf, named, keywordOf, said, bindingOf, token]
  | flag named token => simp [entryOf, named, flagOf, bindingOf, token]
  | value named said => simp [entryOf, named, said, Except.map]

theorem Fails.entryOf_eq {item : Tree} {failure : Failure} (h : Fails helpers text item failure) :
    entryOf helpers text item = .error failure := by
  cases h with
  | keyword named token fails =>
    simp [entryOf, named, keywordOf, pieceOf_eq_error_iff.2 fails]
  | value named fails => simp [entryOf, named, pieceOf_eq_error_iff.2 fails, Except.map]
  | other unnamed =>
    simp only [List.mem_cons, List.not_mem_nil, or_false, not_or] at unnamed
    rw [entryOf]
    split <;> simp_all

/-- An item with the parts it asks for says something or fails. -/
theorem Shaped.says_or_fails {item : Tree} (h : Shaped item) :
    (∃ entry, Says helpers text item entry) ∨ ∃ failure, Fails helpers text item failure := by
  cases h with
  | keyword value named token =>
    cases said : pieceOf helpers text value with
    | ok piece => exact .inl ⟨_, .keyword named token said⟩
    | error failure => exact .inr ⟨_, .keyword named token (pieceOf_eq_error_iff.1 said)⟩
  | flag named token => exact .inl ⟨_, .flag named token⟩
  | @value label parts named =>
    cases said : pieceOf helpers text (.node label parts) with
    | ok piece => exact .inl ⟨_, .value named said⟩
    | error failure => exact .inr ⟨_, .value named (pieceOf_eq_error_iff.1 said)⟩
  | other parts unnamed => exact .inr ⟨_, .other unnamed⟩

/-! ## One item after the other -/

theorem entriesOf_cons (item : Tree) (items : List Tree) :
    entriesOf helpers text (item :: items) =
      (entryOf helpers text item).bind fun entry =>
        (entriesOf helpers text items).map (entry :: ·) := by
  rw [entriesOf]
  cases entryOf helpers text item <;> rfl

theorem entriesOf_of_says {items : List Tree} {entries : List (Entry Tree.Piece)}
    (h : List.Forall₂ (Says helpers text) items entries) :
    entriesOf helpers text items = .ok entries := by
  induction h with
  | nil => rfl
  | cons said _ ih => rw [entriesOf_cons, said.entryOf_eq, ih]; rfl

theorem entriesOf_of_fails {before after : List Tree} {item : Tree} {failure : Failure}
    (said : ∀ earlier ∈ before, ∃ entry, Says helpers text earlier entry)
    (fails : Fails helpers text item failure) :
    entriesOf helpers text (before ++ item :: after) = .error failure := by
  induction before with
  | nil => rw [List.nil_append, entriesOf_cons, fails.entryOf_eq]; rfl
  | cons earlier before ih =>
    obtain ⟨⟨entry, first⟩, others⟩ := List.forall_mem_cons.1 said
    rw [List.cons_append, entriesOf_cons, first.entryOf_eq, ih others]
    rfl

/-- Every item says something or fails. If all of them say something, the values by place are those
of the items in their order, and every name that an item binds is bound once, in the order of first
bindings, to the value of its last one. If some item fails, its failure is that of the tree,
provided the items before it say something. A node with an unknown label fails for that exactly if
there is no helper of its name. -/
theorem assemble_of_shaped {label : Label} {items : List Tree}
    (shaped : ∀ item ∈ items, Shaped item) :
    (∀ item ∈ items,
      (∃ entry, Says helpers text item entry) ∨ ∃ failure, Fails helpers text item failure) ∧
    (∀ entries, List.Forall₂ (Says helpers text) items entries → ∃ assembly,
      assemble helpers text (.node label items) = .ok assembly ∧
      assembly.arguments = entries.filterMap Entry.argument? ∧
      assembly.bindings.names =
        ((entries.filterMap Entry.binding?).map Prod.fst).eraseDups ∧
      ∀ name, assembly.bindings.get? name =
        (entries.filterMap Entry.binding?).reverse.lookup name) ∧
    (∀ before item after failure, items = before ++ item :: after →
      (∀ earlier ∈ before, ∃ entry, Says helpers text earlier entry) →
      Fails helpers text item failure →
      assemble helpers text (.node label items) = .error failure) ∧
    ∀ label children pieces, conversion? label = none →
      piecesOf helpers text children = .ok pieces →
      (FailsHere helpers text (.node label children) (.tree (.noConversion label)) ↔
        helpers.node? label.name = none) := by
  refine ⟨fun item member => (shaped item member).says_or_fails, fun entries said => ?_, ?_,
    fun label children pieces unknown below => failsHere_noConversion_iff below unknown⟩
  · have assembled : assemble helpers text (.node label items) =
        .ok (Assembly.ofEntries entries) := by
      rw [assemble, entriesOf_of_says said]
      rfl
    exact ⟨_, assembled, rfl, Bindings.names_ofList _, Bindings.get?_ofList _⟩
  · rintro before item after failure rfl said fails
    rw [assemble, entriesOf_of_fails said fails]
    rfl

/-- A keyword with an integer, made by hand. -/
def keywordMade (key digits : String) : Tree :=
  .node (.named "keyword") [.detached (.terminal .key) key,
    .node (.named "int") [.detached (.terminal (.scalar .int)) digits]]

/-- A list made by hand: an unknown label in a nested list, before a number that is too large. -/
def mysteryMade : Tree :=
  .node (.named "value") [.node (.named "list")
    [.node (.named "list") [.node (.named "mystery") []],
      .node (.named "int") [.detached (.terminal (.scalar .int)) "9223372036854775808"]]]

theorem assemble_of_shaped_made :
    (∃ assembly, assemble .standard "" (.node (.named "command")
        [keywordMade "k:" "1", keywordMade "f:" "7", keywordMade "k:" "2"]) = .ok assembly ∧
      assembly.bindings.names = ["k", "f"] ∧
      assembly.bindings.get? "k" = some (.value (.int 2))) ∧
    assemble .standard ""
        (.node (.named "command") [keywordMade "k:" "1", mysteryMade, keywordMade "k:" "x"]) =
      .error (.tree (.noConversion (.named "mystery"))) := by
  have keyword (key digits : String) : Shaped (keywordMade key digits) :=
    .keyword _ (by decide) rfl
  have said (key digits : String) {n : Int}
      (converts : pieceOf .standard "" (.node (.named "int")
        [.detached (.terminal (.scalar .int)) digits]) = .ok (.value (.int n))) :
      Says .standard "" (keywordMade key digits) (.binding (keyName key) (.value (.int n))) :=
    .keyword (by decide) rfl converts
  have k1 := @said "k:" "1" 1 (by rfl)
  have f7 := @said "f:" "7" 7 (by rfl)
  have k2 := @said "k:" "2" 2 (by rfl)
  constructor
  · obtain ⟨-, all, -⟩ := @assemble_of_shaped .standard "" (.named "command")
      [keywordMade "k:" "1", keywordMade "f:" "7", keywordMade "k:" "2"] (by simp [keyword])
    obtain ⟨assembly, assembled, -, names, values⟩ :=
      all _ (.cons k1 (.cons f7 (.cons k2 .nil)))
    exact ⟨assembly, assembled, names, values "k"⟩
  · have shaped : Shaped mysteryMade := .value _ (by decide)
    have mystery : Fails .standard "" mysteryMade
        (.tree (.noConversion (.named "mystery"))) := by
      refine .value (by decide) ⟨[], .node (.named "mystery") [], _, rfl, by simp, ?_⟩
      exact @FailsHere.unknown .standard "" _ [] [] rfl (by decide) rfl
    obtain ⟨-, -, first, -⟩ := @assemble_of_shaped .standard "" (.named "command")
      [keywordMade "k:" "1", mysteryMade, keywordMade "k:" "x"] (by simp [keyword, shaped])
    exact first [keywordMade "k:" "1"] mysteryMade _ _ rfl (by simpa using ⟨_, k1⟩) mystery

/-- A string made by hand, of the text of a node with some name. -/
def textMade (name : String) : Tree :=
  .node (.named "value")
    [.node (.named "string") [.node (.named "bareword") [.node (.named name) []]]]

/-- The conversion as a whole is a helper with a name that is unknown as a label, so not every
unknown label stops a command from being assembled. -/
theorem not_noConversion_transform :
    ¬ ∀ name, conversion? (.named name) = none →
      assemble .standard "" (.node (.named "command") [textMade name]) =
        .error (.tree (.noConversion (.named name))) := by
  intro every
  have assembled : assemble .standard "" (.node (.named "command") [textMade "transform"]) =
      .ok ⟨[.value (.string "[]")], .empty⟩ := by rfl
  cases assembled.symm.trans (every "transform" (by decide))

end Command

end CommandLine
