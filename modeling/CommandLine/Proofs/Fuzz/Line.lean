import CommandLine.Proofs.Fuzz.Token
import CommandLine.Proofs.Item.Passing
import CommandLine.Proofs.Tree.Nesting
import CommandLine.Proofs.Tree.Rejection

/-!
# Random lines are lines

A random line is accepted, unless one of the values that were drawn for it is a dash
(`accepted_line_iff`). What the neighbours of a value are makes no difference: every draft leads
from the state before it to the state that its value asks for, or nowhere at all.
-/

namespace CommandLine.Fuzz
open CommandLine.Text CommandLine.Item CommandLine.Fuzz.Draw

/-! ## What is drawn for a line -/

namespace Draft

mutual

/-- All values that are drawn for a value: the value itself and those of its elements. -/
def values : Draft → List Draft
  | word cs => [word cs]
  | list ds => list ds :: valuesAll ds

/-- All values that are drawn for some values. -/
def valuesAll : List Draft → List Draft
  | [] => []
  | d :: ds => values d ++ valuesAll ds

end

/-- None of the values that are drawn for a value is a dash. -/
def NoDash (d : Draft) : Prop := ∀ value ∈ d.values, value.written ≠ ['-']

/-- What can be drawn for a value in which lists nest at most `levels` deep. -/
def Drawable : Nat → Draft → Prop
  | _, word cs => ScalarText cs
  | 0, list _ => False
  | levels + 1, list ds => ds ≠ [] ∧ ∀ d ∈ ds, Drawable levels d

variable {d : Draft} {ds : List Draft} {cs : List Char} {n : Nat}

theorem drawable_word : (word cs).Drawable n ↔ ScalarText cs := by
  cases n <;> exact .rfl

theorem noDash_word : (word cs).NoDash ↔ cs ≠ ['-'] := by
  simp [NoDash, values, written]

theorem valuesAll_eq_flatMap (ds : List Draft) : valuesAll ds = ds.flatMap values := by
  induction ds with
  | nil => rfl
  | cons d ds ih => rw [valuesAll, ih, List.flatMap_cons]

theorem writtenAll_eq_map (ds : List Draft) : writtenAll ds = ds.map written := by
  induction ds with
  | nil => rfl
  | cons d ds ih => rw [writtenAll, ih, List.map_cons]

/-- A list is no dash itself. -/
theorem noDash_list : (list ds).NoDash ↔ ∀ d ∈ ds, d.NoDash := by
  have bracket : (list ds).written ≠ ['-'] := by simp [written]
  rw [NoDash, values, valuesAll_eq_flatMap, List.forall_mem_cons, List.forall_mem_flatMap]
  exact and_iff_right bracket

/-- No value begins with a slash. -/
theorem written_front (h : d.Drawable n) : ∃ c tail, d.written = c :: tail ∧ c ≠ '/' := by
  cases d with
  | list ds => exact ⟨'[', _, rfl, by decide⟩
  | word cs =>
    cases drawable_word.1 h with
    | dash => exact ⟨'-', [], rfl, by decide⟩
    | pair => exact ⟨'a', [':', 'b'], rfl, by decide⟩
    | token reads noSlash =>
      obtain ⟨-, -, nonempty⟩ := firstScan_eq_some reads
      obtain ⟨c, tail, rfl⟩ := List.exists_cons_of_ne_nil nonempty
      exact ⟨c, tail, rfl, by simpa using noSlash⟩

end Draft

namespace DraftItem

/-- All values that are drawn for a part of a line. -/
def values : DraftItem → List Draft
  | keyword _ _ argument => argument.values
  | flag _ => []
  | value draft => draft.values

/-- None of the values that are drawn for a part of a line is a dash. -/
def NoDash (item : DraftItem) : Prop := ∀ value ∈ item.values, value.written ≠ ['-']

/-- What can be drawn for a part of a line. -/
def Drawable : DraftItem → Prop
  | keyword name gap argument => IsIdentifier name ∧ Blank gap ∧ argument.Drawable nesting
  | flag name => IsIdentifier name
  | value draft => draft.Drawable nesting

end DraftItem

theorem yields_value (levels : Nat) : Yields (value levels) (Draft.Drawable levels) := by
  induction levels with
  | zero => exact yields_scalar.bind fun cs text => yields_pure text
  | succ levels ih =>
    refine yields_bind fun single => yields_ite ?_ ?_
    · exact yields_scalar.bind fun cs text => yields_pure text
    · refine (yields_between (by decide)).bind fun count positive => ?_
      refine (yields_times ih count).bind fun ds all => yields_pure ⟨?_, all.2⟩
      rintro rfl
      have none : 0 = count := all.1
      omega

theorem yields_item : Yields item DraftItem.Drawable := by
  refine yields_bind fun form => ?_
  split
  · refine yields_identifier.bind fun name named => ?_
    have blanks : ([[], [' ']] : List (List Char)).all (List.all · isBlank) = true := by decide
    refine (yields_pick_of_all (by simp) blanks).bind fun gap blank => ?_
    refine (yields_value nesting).bind fun argument drawable => yields_pure ?_
    exact ⟨named, List.all_eq_true.1 blank, drawable⟩
  · exact yields_identifier.bind fun name named => yields_pure named
  · exact (yields_value nesting).bind fun draft drawable => yields_pure drawable

theorem yields_items : Yields items fun drafts => ∀ item ∈ drafts, item.Drawable :=
  yields_bind fun count => (yields_times yields_item count).mono fun _ all => all.2

/-! ## Reading values -/

variable {s next : State} {items : List Item} {slot : Slot} {n : Nat}

/-- Behind a value that is no deeper than a number of levels and took its place in a slot. -/
def Filled (n : Nat) (items : List Item) (slot : Slot) (s : State) : Prop :=
  ∃ p : Phrase, (Tree.ofPhrase p).nesting ≤ n ∧ s = State.fill items slot p

/-- Behind a keyword or in a list, all values of so many levels take their place. -/
def ReadsValues (n : Nat) : Prop :=
  ∀ d : Draft, d.Drawable n → ∀ (items : List Item) (slot : Slot),
    Passes d.NoDash (.awaiting items slot) d.written Terminal.endsValue (Filled n items slot)

theorem passes_scalar {form : Scalar} {cs : List Char} (opens : State.Opens s items slot)
    (found : firstScan (Terminal.byPriority.filter s.accepts) cs = some (.scalar form, cs, [])) :
    Passes True s cs Terminal.endsValue (Filled n items slot) := by
  have accepts := State.accepts_of_shift (opens.shift_scalar form (.read (.scalar form) cs .start))
  refine (passes_found found accepts).mono ?_ fun _ => id
  rintro next ⟨here, shifted⟩
  rw [opens.shift_scalar] at shifted
  cases shifted
  exact ⟨_, (Tree.nesting_scalar _ _).trans_le (Nat.zero_le n), rfl⟩

/-- The elements of a list and the bracket behind them. -/
theorem passes_elements (reads : ReadsValues n) (items : List Item) (outer : Slot) :
    ∀ (ds : List Draft) (before : List Phrase), ds ≠ [] → (∀ d ∈ ds, d.Drawable n) →
    (∀ p ∈ before, (Tree.ofPhrase p).nesting ≤ n) →
    Passes (∀ d ∈ ds, d.NoDash) (.awaiting items (.element before outer))
      (joined [',', ' '] (ds.map Draft.written) ++ [']']) Terminal.endsValue
      (Filled (n + 1) items outer)
  | [], _, nonempty, _, _ => absurd rfl nonempty
  | [d], before, _, drawable, flat => by
    have one : joined [',', ' '] ([d].map Draft.written) = d.written := List.append_nil _
    rw [one, List.forall_mem_singleton]
    refine (reads d (drawable d List.mem_cons_self) items _).before ?_ fun _ _ => rfl
    rintro _ ⟨p, deep, rfl⟩
    refine (passes_token (t := .closeBracket) (by decide +kernel) rfl).mono ?_ fun _ => id
    rintro _ ⟨here, shifted⟩
    cases shifted
    refine ⟨_, Tree.nesting_list_le_iff.2 fun q member => ?_, rfl⟩
    rcases List.mem_cons.1 (List.mem_reverse.1 member) with rfl | member
    · exact deep
    · exact flat q member
  | d :: e :: ds, before, _, drawable, flat => by
    obtain ⟨first, others⟩ := List.forall_mem_cons.1 drawable
    have split : joined [',', ' '] ((d :: e :: ds).map Draft.written) ++ [']'] =
        d.written ++ ([','] ++ ([' '] ++
          (joined [',', ' '] ((e :: ds).map Draft.written) ++ [']']))) := by
      simp [joined]
    rw [split, List.forall_mem_cons]
    refine (reads d first items _).append ?_ fun _ _ => rfl
    rintro _ ⟨p, deep, rfl⟩
    -- Behind the comma the other elements are read with this one before them.
    refine (passes_token (t := .comma) (by decide +kernel) rfl).then ?_ fun _ _ => rfl
    rintro _ ⟨here, shifted⟩
    cases shifted
    refine (passes_blank Layout.blank_space fun _ => true).then ?_ fun _ _ => rfl
    rintro _ rfl
    exact passes_elements reads items outer (e :: ds) (p :: before) (List.cons_ne_nil _ _) others
      (List.forall_mem_cons.2 ⟨deep, flat⟩)

/-- A list, wherever a value may begin. -/
theorem passes_list (reads : ReadsValues n) (opens : State.Opens s items slot) {ds : List Draft}
    (drawable : (Draft.list ds).Drawable (n + 1)) :
    Passes (Draft.list ds).NoDash s (Draft.list ds).written Terminal.endsValue
      (Filled (n + 1) items slot) := by
  have split : (Draft.list ds).written =
      ['['] ++ (joined [',', ' '] (ds.map Draft.written) ++ [']']) := by
    rw [Draft.written, Draft.writtenAll_eq_map]
    rfl
  have accepts : s.accepts .openBracket = true := by cases opens <;> rfl
  rw [split]
  refine Passes.of_iff ?_ Draft.noDash_list
  refine (passes_found opens.reads_openBracket accepts).then ?_ fun _ _ => rfl
  rintro next ⟨here, shifted⟩
  rw [opens.shift_openBracket] at shifted
  cases shifted
  exact passes_elements reads items slot ds [] drawable.1 drawable.2 (List.forall_mem_nil _)

/-- A value that is no list, behind a keyword or in a list. -/
theorem passes_word {cs : List Char} (text : ScalarText cs) (items : List Item) (slot : Slot) :
    Passes (cs ≠ ['-']) (.awaiting items slot) cs Terminal.endsValue (Filled n items slot) := by
  cases text with
  | token reads =>
    refine (passes_scalar (.awaiting items slot) (firstScan_filter reads rfl)).of_iff ?_
    exact iff_true_intro (Terminal.ne_dash_of_reads reads)
  | dash => exact (passes_dash _ _).of_iff (by simp)
  | pair =>
    have found : firstScan (Terminal.byPriority.filter State.startsValue) ['a', ':', 'b'] =
        some (.scalar .bareword, ['a', ':', 'b'], []) := by decide +kernel
    exact (passes_scalar (.awaiting items slot) found).of_iff (by simp)

theorem readsValues (n : Nat) : ReadsValues n := by
  induction n with
  | zero =>
    intro d drawable items slot
    cases d with
    | word cs => exact (passes_word drawable items slot).of_iff Draft.noDash_word
    | list ds => exact drawable.elim
  | succ n ih =>
    intro d drawable items slot
    cases d with
    | word cs => exact (passes_word drawable items slot).of_iff Draft.noDash_word
    | list ds => exact passes_list ih (.awaiting items slot) drawable

/-! ## Reading the parts of a line -/

/-- Behind one item more, in which lists are no deeper than a number of levels. -/
def Behind (n : Nat) (items : List Item) (s : State) : Prop :=
  ∃ item afterValue, (Tree.ofItem item).nesting ≤ n ∧ s = .between (item :: items) afterValue

theorem Filled.argument (h : Filled n items .argument s) : Behind n items s := by
  obtain ⟨p, deep, rfl⟩ := h
  exact ⟨.value p, true, deep, rfl⟩

theorem Filled.keyword {key : Token} (h : Filled n items (.keyword key) s) : Behind n items s := by
  obtain ⟨p, deep, rfl⟩ := h
  exact ⟨.keyword key p, true, (Tree.nesting_keyword key p).trans_le deep, rfl⟩

/-- A value between items. A word with a colon in it is a keyword there. -/
theorem passes_argument {d : Draft} (drawable : d.Drawable n) (items : List Item)
    (afterValue : Bool) :
    Passes d.NoDash (.between items afterValue) d.written Terminal.endsValue (Behind n items) := by
  have opens : State.Opens (.between items afterValue) items .argument := .between items afterValue
  cases d with
  | list ds =>
    cases n with
    | zero => exact drawable.elim
    | succ n =>
      exact (passes_list (readsValues n) opens drawable).mono (fun _ => Filled.argument) fun _ => id
  | word cs =>
    refine Passes.of_iff ?_ Draft.noDash_word
    cases Draft.drawable_word.1 drawable with
    | token reads =>
      have found := passes_scalar (n := n) opens (firstScan_filter reads rfl)
      refine (found.mono (fun _ => Filled.argument) fun _ => id).of_iff ?_
      exact iff_true_intro (Terminal.ne_dash_of_reads reads)
    | dash => exact (passes_dash _ _).of_iff (by simp)
    | pair =>
      have key : Terminal.key.Reads ['a', ':'] := by decide +kernel
      have value : (Terminal.scalar .bareword).Reads ['b'] := by decide +kernel
      refine Passes.of_iff ?_ (by simp : ['a', ':', 'b'] ≠ ['-'] ↔ True)
      show Passes True _ (['a', ':'] ++ ['b']) _ _
      refine (passes_token key rfl).then ?_ fun _ _ => rfl
      rintro next ⟨here, shifted⟩
      cases shifted
      exact (passes_scalar (.awaiting items _) (firstScan_filter value rfl)).mono
        (fun _ => Filled.keyword) fun _ => id

/-- What stands behind the colon of a keyword is no second slash. -/
theorem head?_ne_slash {d : Draft} {gap : List Char} (blank : Blank gap) (drawable : d.Drawable n)
    (rest : List Char) : (gap ++ d.written ++ rest).head? ≠ some '/' := by
  cases gap with
  | nil =>
    obtain ⟨c, tail, same, apart⟩ := Draft.written_front drawable
    rw [List.nil_append, same]
    simpa using apart
  | cons c gap =>
    intro slash
    obtain rfl : c = '/' := Option.some.inj slash
    exact absurd (blank '/' List.mem_cons_self) (by decide)

/-- Whatever is drawn for a part of a line is read to one item, unless there is a dash in it. -/
theorem passes_item {item : DraftItem} (drawable : item.Drawable) (items : List Item)
    (afterValue : Bool) :
    Passes item.NoDash (.between items afterValue) item.written Terminal.endsWord
      (Behind nesting items) := by
  cases item with
  | value d =>
    exact (passes_argument drawable items afterValue).mono (fun _ => id)
      fun _ => Terminal.endsValue_of_endsWord
  | flag name =>
    have sure : (DraftItem.flag name).NoDash ↔ True := iff_true_intro (List.forall_mem_nil _)
    refine Passes.of_iff ?_ sure
    refine (passes_token (reads_flag_of_isIdentifier drawable) rfl).mono ?_ fun _ => id
    rintro next ⟨here, shifted⟩
    cases shifted
    exact ⟨_, false, (Tree.nesting_flag _).trans_le (Nat.zero_le _), rfl⟩
  | keyword name gap d =>
    obtain ⟨named, blank, drawn⟩ := drawable
    have split : (DraftItem.keyword name gap d).written =
        (name ++ [':']) ++ (gap ++ d.written) := by simp [DraftItem.written]
    have fine : (DraftItem.keyword name gap d).NoDash ↔ d.NoDash := .rfl
    rw [split]
    refine Passes.of_iff ?_ fine
    refine (passes_token (reads_key_of_isIdentifier named) rfl).then ?_ ?_
    · rintro next ⟨here, shifted⟩
      cases shifted
      refine (passes_blank blank fun _ => true).then ?_ fun _ _ => rfl
      rintro next rfl
      exact (readsValues nesting d drawn items _).mono (fun _ => Filled.keyword)
        fun _ => Terminal.endsValue_of_endsWord
    · intro rest _
      exact Terminal.noSlashes_of_head? (head?_ne_slash blank drawn rest)

/-! ## Reading the line -/

/-- Behind some items, in which lists are no deeper than a number of levels. -/
def BehindAll (n : Nat) (s : State) : Prop :=
  ∃ items afterValue, (∀ item ∈ items, (Tree.ofItem item).nesting ≤ n) ∧
    s = .between items afterValue

theorem passes_line : ∀ (drafts : List DraftItem) (items : List Item) (afterValue : Bool),
    (∀ item ∈ drafts, item.Drawable) → (∀ item ∈ items, (Tree.ofItem item).nesting ≤ nesting) →
    Passes (∀ item ∈ drafts, item.NoDash) (.between items afterValue) (DraftItem.lineOf drafts)
      Terminal.endsWord (BehindAll nesting)
  | [], items, afterValue, _, flat => by
    have sure : (∀ item ∈ ([] : List DraftItem), item.NoDash) ↔ True :=
      iff_true_intro (List.forall_mem_nil _)
    refine Passes.of_iff ?_ sure
    refine (passes_blank (List.forall_mem_nil _) _).mono ?_ fun _ => id
    rintro next rfl
    exact ⟨items, afterValue, flat, rfl⟩
  | [item], items, afterValue, drawable, flat => by
    have one : DraftItem.lineOf [item] = item.written := List.append_nil _
    rw [one, List.forall_mem_singleton]
    refine (passes_item (List.forall_mem_singleton.1 drawable) items afterValue).mono ?_
      fun _ => id
    rintro next ⟨item', afterValue', deep, rfl⟩
    exact ⟨_, afterValue', List.forall_mem_cons.2 ⟨deep, flat⟩, rfl⟩
  | item :: second :: drafts, items, afterValue, drawable, flat => by
    obtain ⟨first, others⟩ := List.forall_mem_cons.1 drawable
    have split : DraftItem.lineOf (item :: second :: drafts) =
        item.written ++ ([' '] ++ DraftItem.lineOf (second :: drafts)) := by
      simp [DraftItem.lineOf, joined]
    rw [split, List.forall_mem_cons]
    refine (passes_item first items afterValue).append ?_ fun _ _ => rfl
    rintro next ⟨item', afterValue', deep, rfl⟩
    refine (passes_blank Layout.blank_space fun _ => true).then ?_ fun _ _ => rfl
    rintro next rfl
    exact passes_line (second :: drafts) _ afterValue' others
      (List.forall_mem_cons.2 ⟨deep, flat⟩)

/-- What comes of the drafts of a line. -/
theorem ofText_lineOf {drafts : List DraftItem} (drawable : ∀ item ∈ drafts, item.Drawable) :
    ((∀ item ∈ drafts, item.NoDash) → ∃ items, (Tree.ofItems items).nesting ≤ nesting ∧
      ofText (DraftItem.lineOf drafts) = .ok items) ∧
    (¬ (∀ item ∈ drafts, item.NoDash) →
      ∃ rejection, ofText (DraftItem.lineOf drafts) = .error rejection) := by
  have passes := passes_line drafts [] false drawable (List.forall_mem_nil _)
  obtain ⟨goes, stops⟩ := passes .start [] rfl
  rw [List.append_nil] at goes stops
  refine ⟨fun noDash => ?_, stops⟩
  obtain ⟨next, there, ⟨items, afterValue, flat, rfl⟩, same⟩ := goes noDash
  refine ⟨items.reverse, Tree.nesting_ofItems_le_iff.2 ?_, same.trans (readFrom_end rfl)⟩
  intro item member
  exact flat item (List.mem_reverse.1 member)

/-- A random line is accepted exactly if no value that was drawn for it is a dash, whatever the
numbers are. The lists of an accepted one have elements and nest at most four deep. -/
theorem accepted_line_iff (source : Source) :
    let drafts := ((Fuzz.items : Draw (List DraftItem)).run source).1
    let text := ((line : Draw (List Char)).run source).1
    text = DraftItem.lineOf drafts ∧
    (Tree.Accepted text ↔
      ∀ value ∈ drafts.flatMap DraftItem.values, value.written ≠ ['-']) ∧
    ∀ tree, Tree.parse (String.ofList text) = .ok tree →
      (∀ children ∈ tree.lists, children ≠ []) ∧ tree.nesting ≤ 4 := by
  intro drafts text
  have written : text = DraftItem.lineOf drafts := rfl
  obtain ⟨accepted, rejected⟩ := ofText_lineOf (yields_items source)
  have noDash : (∀ value ∈ drafts.flatMap DraftItem.values, value.written ≠ ['-']) ↔
      ∀ item ∈ drafts, item.NoDash := List.forall_mem_flatMap
  refine ⟨written, ?_, ?_⟩
  · rw [noDash, Tree.accepted_iff, written]
    constructor
    · rintro ⟨items, read⟩
      by_contra dash
      obtain ⟨rejection, failed⟩ := rejected dash
      cases read.symm.trans failed
    · intro fine
      obtain ⟨items, -, read⟩ := accepted fine
      exact ⟨items, read⟩
  · intro tree parsed
    refine ⟨Tree.ne_nil_of_parse parsed, ?_⟩
    obtain ⟨items, read, rfl⟩ := Tree.parse_eq_ok_iff.1 parsed
    rw [String.toList_ofList, written] at read
    by_cases fine : ∀ item ∈ drafts, item.NoDash
    · obtain ⟨items', deep, read'⟩ := accepted fine
      obtain rfl := Except.ok.inj (read.symm.trans read')
      exact deep
    · obtain ⟨rejection, failed⟩ := rejected fine
      cases read.symm.trans failed

/-- Four lists inside one another. -/
theorem accepted_line_nested :
    let source := Source.ofSeed 0
      [0, 2, 2147483647, 0, 2147483647, 0, 2147483647, 0, 2147483647, 0, 3, 0]
    let text := ((line : Draw (List Char)).run source).1
    text = "[[[[@username]]]]".toList ∧
      ∃ tree, Tree.parse (String.ofList text) = .ok tree ∧
        (∀ children ∈ tree.lists, children ≠ []) ∧ tree.nesting ≤ 4 ∧ tree.nesting = 4 := by
  intro source text
  have written : text = "[[[[@username]]]]".toList := by decide +kernel
  obtain ⟨-, accepted, flat⟩ := accepted_line_iff source
  obtain ⟨tree, parsed⟩ := accepted.2 (by decide +kernel)
  have deep : (Tree.parse (String.ofList text)).toOption.map Tree.nesting = some 4 := by
    decide +kernel
  rw [parsed] at deep
  exact ⟨written, tree, parsed, (flat tree parsed).1, (flat tree parsed).2, Option.some.inj deep⟩

end CommandLine.Fuzz
