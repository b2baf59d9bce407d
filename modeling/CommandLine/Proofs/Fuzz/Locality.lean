import CommandLine.Proofs.Fuzz.Attempt
import CommandLine.Proofs.Fuzz.Line
import Mathlib.Data.List.SplitBy

/-!
# Mutations are local

What a mutation may make of a line (`Mutation.Gives`): one place of it is changed, and what stands
before and behind that place stays. Whatever is drawn, a random change is made, without a choice
from nothing, and is one of these (`mutate_gives`).
-/

namespace CommandLine.Fuzz
open CommandLine.Text CommandLine.Fuzz.Draw

/-! ## Stretches of a line -/

variable {lengthAt : List Char → Nat} {At : List Char → List Char → Prop}
  {before behind cs line passed : List Char} {start : Nat} {span : Span}

/-- What holds at every place that the search for stretches comes to, of what stands before and
behind the place. -/
structure Search (lengthAt : List Char → Nat) (At : List Char → List Char → Prop) : Prop where
  fits (cs : List Char) : lengthAt cs ≤ cs.length
  first (line : List Char) : At [] line
  pass (passed : List Char) (c : Char) (cs : List Char) (none : lengthAt (c :: cs) = 0) :
    At (passed ++ [c]) cs
  found (passed cs : List Char) (here : At passed cs) (some : 0 < lengthAt cs) :
    At (passed ++ cs.take (lengthAt cs)) (cs.drop (lengthAt cs))

theorem Search.mem_spansFrom (search : Search lengthAt At) (here : At passed cs)
    (member : span ∈ spansFrom lengthAt passed.length cs) :
    ∃ before behind, passed ++ cs = before ++ behind ∧ At before behind ∧ 0 < lengthAt behind ∧
      span = ⟨before.length, lengthAt behind⟩ := by
  generalize place : passed.length = start at member
  fun_induction spansFrom lengthAt start cs generalizing passed with
  | case1 start => cases member
  | case2 start c cs none ih =>
    have further : (passed ++ [c]).length = start + 1 := by simp [place]
    obtain ⟨before, behind, split, rest⟩ := ih (search.pass passed c cs none) further member
    exact ⟨before, behind, by simpa using split, rest⟩
  | case3 start c cs length some ih =>
    rcases List.mem_cons.1 member with rfl | later
    · exact ⟨passed, c :: cs, rfl, here, by omega, by rw [place, some]⟩
    · -- The stretch lies within the text, so the search goes on at its end.
      have fits := search.fits (c :: cs)
      have next := search.found passed (c :: cs) here (by omega)
      rw [some] at next fits
      have further : (passed ++ (c :: cs).take (length + 1)).length = start + length + 1 := by
        rw [List.length_append, List.length_take_of_le fits, place, Nat.add_assoc]
      obtain ⟨before, behind, split, rest⟩ := ih next further later
      refine ⟨before, behind, ?_, rest⟩
      rw [← split, List.append_assoc, List.take_succ_cons, List.cons_append,
        List.take_append_drop]

/-- A stretch that is found in a line is replaced between what stands before and behind it. -/
theorem Search.exists_of_mem (search : Search lengthAt At)
    (member : span ∈ spansFrom lengthAt 0 line) :
    ∃ before behind, At before behind ∧ 0 < lengthAt behind ∧
      line = before ++ behind.take (lengthAt behind) ++ behind.drop (lengthAt behind) ∧
      ∀ new, replaceSpan line span new = before ++ new ++ behind.drop (lengthAt behind) := by
  obtain ⟨before, behind, split, here, more, rfl⟩ := search.mem_spansFrom (search.first line) member
  rw [List.nil_append] at split
  refine ⟨before, behind, here, more, ?_, ?_⟩
  · rw [List.append_assoc, List.take_append_drop, split]
  · intro new
    simp [replaceSpan, split, List.drop_append]

/-- Where nothing is found, there is nothing. -/
theorem lengthAt_of_spansFrom (nothing : spansFrom lengthAt start cs = [])
    (split : cs = before ++ behind) (more : behind ≠ []) : lengthAt behind = 0 := by
  fun_induction spansFrom lengthAt start cs generalizing before with
  | case1 start => exact absurd (List.append_eq_nil_iff.1 split.symm).2 more
  | case2 start c cs none ih =>
    cases before with
    | nil =>
      rw [← none, split, List.nil_append]
    | cons d before => exact ih nothing (List.cons.inj split).2
  | case3 start c cs length some ih => cases nothing

/-! ## Delimiters -/

/-- How many times a text has a character at its end. -/
def ending (c : Char) (cs : List Char) : Nat := (cs.reverse.takeWhile (· == c)).length

theorem ending_append_singleton (c d : Char) (cs : List Char) :
    ending c (cs ++ [d]) = if d = c then ending c cs + 1 else 0 := by
  by_cases same : d = c
  · simp [ending, same]
  · simp [ending, same]

/-- The single characters that are delimiters. -/
def delimiterMarks : List Char := [':', '-', ',', ' ', '"', '[', ']']

/-- The delimiters that are found behind a text, from left to right: two dots or slashes that
belong together, and marks. -/
inductive Delimiter (before : List Char) : List Char → Prop where
  | pair {c : Char} (paired : c ∈ ['.', '/']) (even : ending c before % 2 = 0) :
    Delimiter before [c, c]
  | mark {c : Char} (known : c ∈ delimiterMarks) : Delimiter before [c]

/-- No pair of dots or slashes reaches over a place in a line. -/
def Fresh (before behind : List Char) : Prop :=
  ∀ c ∈ ['.', '/'], behind.head? = some c → ending c before % 2 = 0

theorem delimiterLength_cases (cs : List Char) :
    (∃ c rest, c ∈ ['.', '/'] ∧ cs = c :: c :: rest ∧ delimiterLength cs = 2) ∨
      (∃ c rest, c ∈ delimiterMarks ∧ cs = c :: rest ∧ delimiterLength cs = 1) ∨
      delimiterLength cs = 0 ∧ ∀ c rest, cs = c :: rest →
        c ∉ delimiterMarks ∧ (c ∈ ['.', '/'] → rest.head? ≠ some c) := by
  unfold delimiterLength
  split
  · exact .inl ⟨'.', _, by simp, rfl, rfl⟩
  · exact .inl ⟨'/', _, by simp, rfl, rfl⟩
  · next c rest noDots noSlashes =>
    by_cases known : c ∈ delimiterMarks
    · exact .inr (.inl ⟨c, rest, known, rfl, if_pos known⟩)
    · refine .inr (.inr ⟨if_neg known, ?_⟩)
      intro c' rest' same
      obtain ⟨rfl, rfl⟩ := List.cons.inj same
      refine ⟨known, ?_⟩
      intro paired next
      obtain ⟨rest, rfl⟩ : ∃ more, rest = c :: more := by
        cases rest with
        | nil => cases next
        | cons d more => exact ⟨more, by rw [Option.some.inj next]⟩
      rcases List.mem_pair.1 paired with rfl | rfl
      · exact noDots rest rfl rfl
      · exact noSlashes rest rfl rfl
  · exact .inr (.inr ⟨rfl, by simp⟩)

theorem delimiterLength_le (cs : List Char) : delimiterLength cs ≤ cs.length := by
  rcases delimiterLength_cases cs with ⟨c, rest, -, rfl, same⟩ | ⟨c, rest, -, rfl, same⟩ | ⟨same, -⟩
  · simp [same]
  · simp [same]
  · simp [same]

/-- Where a delimiter is, one is found. -/
theorem Delimiter.length_pos {old : List Char} (h : Delimiter before old) (after : List Char) :
    delimiterLength (old ++ after) ≠ 0 := by
  intro none
  rcases delimiterLength_cases (old ++ after) with
    ⟨-, -, -, -, two⟩ | ⟨-, -, -, -, one⟩ | ⟨-, apart⟩
  · omega
  · omega
  · cases h with
    | pair paired even => exact (apart _ _ rfl).2 paired rfl
    | mark known => exact (apart _ _ rfl).1 known

theorem Fresh.pass {c : Char} (none : delimiterLength (c :: cs) = 0) :
    Fresh (passed ++ [c]) cs := by
  intro d paired next
  rw [ending_append_singleton]
  split
  · next same =>
    rcases delimiterLength_cases (c :: cs) with
      ⟨-, -, -, -, two⟩ | ⟨-, -, -, -, one⟩ | ⟨-, apart⟩
    · omega
    · omega
    · exact absurd next (same ▸ (apart c cs rfl).2 (same ▸ paired))
  · rfl

/-- What is found behind a place that no pair reaches over is a delimiter, and no pair reaches over
its end. -/
theorem Fresh.found (fresh : Fresh passed cs) (more : 0 < delimiterLength cs) :
    Delimiter passed (cs.take (delimiterLength cs)) ∧
      Fresh (passed ++ cs.take (delimiterLength cs)) (cs.drop (delimiterLength cs)) := by
  rcases delimiterLength_cases cs with
    ⟨c, rest, paired, rfl, same⟩ | ⟨c, rest, known, rfl, same⟩ | ⟨same, -⟩
  · rw [same]
    have even := fresh c paired rfl
    refine ⟨.pair paired even, ?_⟩
    intro d paired' next
    -- Behind the pair there are two more of its characters at the end, still an even number.
    have split : passed ++ (c :: c :: rest).take 2 = passed ++ [c] ++ [c] := by simp
    rw [split, ending_append_singleton]
    split
    · next same =>
      obtain rfl := same
      rw [ending_append_singleton, if_pos rfl]
      omega
    · rfl
  · rw [same]
    refine ⟨.mark known, ?_⟩
    intro d paired next
    have other : c ≠ d := by
      rintro rfl
      have apart : ∀ c ∈ delimiterMarks, c ∉ ['.', '/'] := by simp [delimiterMarks]
      exact apart c known paired
    rw [List.take_succ_cons, List.take_zero, ending_append_singleton, if_neg other]
  · omega

theorem search_delimiters : Search delimiterLength Fresh where
  fits := delimiterLength_le
  first _ _ _ _ := rfl
  pass _ _ _ none := Fresh.pass none
  found _ _ fresh some := (fresh.found some).2

/-! ## Blanks -/

/-- No run of blanks reaches over a place in a line. -/
def Parted (before behind : List Char) : Prop :=
  (∀ c, before.getLast? = some c → isBlank c = false) ∨
    ∀ c, behind.head? = some c → isBlank c = false

theorem blankLength_le (cs : List Char) : blankLength cs ≤ cs.length :=
  (List.takeWhile_sublist _).length_le

theorem take_blankLength (cs : List Char) : cs.take (blankLength cs) = cs.takeWhile isBlank :=
  (List.prefix_iff_eq_take.1 (List.takeWhile_prefix _)).symm

theorem drop_blankLength (cs : List Char) : cs.drop (blankLength cs) = cs.dropWhile isBlank := by
  have split : cs.takeWhile isBlank ++ cs.drop (blankLength cs) =
      cs.takeWhile isBlank ++ cs.dropWhile isBlank := by
    rw [List.takeWhile_append_dropWhile, ← take_blankLength, List.take_append_drop]
  exact List.append_cancel_left split

theorem blankLength_eq_zero_iff :
    blankLength cs = 0 ↔ ∀ c, cs.head? = some c → isBlank c = false := by
  cases cs with
  | nil => simp [blankLength]
  | cons c cs => by_cases blank : isBlank c = true <;> simp [blankLength, blank]

theorem Parted.pass {c : Char} (none : blankLength (c :: cs) = 0) : Parted (passed ++ [c]) cs := by
  left
  intro d last
  rw [List.getLast?_concat] at last
  exact Option.some.inj last ▸ blankLength_eq_zero_iff.1 none c rfl

theorem head?_dropWhile_isBlank {c : Char} (head : (cs.dropWhile isBlank).head? = some c) :
    isBlank c = false := by
  have visible := List.head?_dropWhile_not isBlank cs
  rw [head] at visible
  exact visible

theorem parted_drop (cs : List Char) : Parted passed (cs.drop (blankLength cs)) := by
  rw [drop_blankLength]
  exact .inr fun _ => head?_dropWhile_isBlank

/-- What is found behind a place that no run of blanks reaches over is a whole run of blanks. -/
theorem Parted.found (parted : Parted passed cs) (more : 0 < blankLength cs) :
    Blank (cs.take (blankLength cs)) ∧ cs.take (blankLength cs) ≠ [] ∧
      ∀ c, passed.getLast? = some c → isBlank c = false := by
  have blankAhead : ¬ ∀ c, cs.head? = some c → isBlank c = false := by
    rw [← blankLength_eq_zero_iff]
    omega
  refine ⟨?_, ?_, parted.resolve_right blankAhead⟩
  · rw [take_blankLength]
    intro c member
    exact List.mem_takeWhile_imp member
  · intro nothing
    have length := List.length_take_of_le (blankLength_le cs)
    rw [nothing, List.length_nil] at length
    omega

theorem search_blanks : Search blankLength Parted where
  fits := blankLength_le
  first _ := .inl (by simp)
  pass _ _ _ none := Parted.pass none
  found _ cs _ _ := parted_drop cs

/-! ## Pieces between spaces -/

theorem notMem_of_mem_splitOn {c : Char} {piece : List Char} (member : piece ∈ cs.splitOn c) :
    c ∉ piece := by
  induction cs generalizing piece with
  | nil => simp_all
  | cons d cs ih =>
    rw [List.splitOn_cons_eq_if_modifyHead] at member
    split at member
    · rcases List.mem_cons.1 member with rfl | later
      · exact List.not_mem_nil
      · exact ih later
    · next other =>
      cases pieces : cs.splitOn c with
      | nil => exact absurd pieces (List.splitOn_ne_nil _ _)
      | cons first rest =>
        rw [pieces] at ih member
        rcases List.mem_cons.1 member with rfl | later
        · have apart := ih List.mem_cons_self
          have other : c ≠ d := by
            rintro rfl
            simp at other
          simp [apart, other]
        · exact ih (List.mem_cons_of_mem _ later)

theorem intercalate_cons_eq (first : List Char) (back : List (List Char)) :
    [' '].intercalate (first :: back) = first ++ back.flatMap (' ' :: ·) := by
  induction back generalizing first with
  | nil => simp
  | cons next back ih =>
    rw [List.intercalate_cons_cons, ih, List.flatMap_cons]
    simp

/-- What stands before and behind one of the pieces that are put together with spaces. -/
theorem intercalate_append_cons (front : List (List Char)) (piece : List Char)
    (back : List (List Char)) :
    [' '].intercalate (front ++ piece :: back) =
      front.flatMap (· ++ [' ']) ++ piece ++ back.flatMap (' ' :: ·) := by
  induction front with
  | nil => exact intercalate_cons_eq piece back
  | cons first front ih =>
    rw [List.cons_append, List.intercalate_cons_of_ne_nil (by simp), ih]
    simp

/-! ## Runs of digits -/

/-- A line and what becomes of it if runs of digits, each as long as it can be, are kept or replaced
by integers at the limits. -/
inductive Edged : List Char → List Char → Prop where
  | nil : Edged [] []
  | other {c : Char} {rest rest' : List Char} (noDigit : isAsciiDigit c = false)
      (more : Edged rest rest') : Edged (c :: rest) (c :: rest')
  | run {run new rest rest' : List Char} (nonempty : run ≠ [])
      (digits : ∀ c ∈ run, isAsciiDigit c = true)
      (ends : ∀ c, rest.head? = some c → isAsciiDigit c = false)
      (edge : new = run ∨ new ∈ int64Edges) (more : Edged rest rest') :
      Edged (run ++ rest) (new ++ rest')

theorem Edged.others {run rest rest' : List Char} (noDigits : ∀ c ∈ run, isAsciiDigit c = false)
    (more : Edged rest rest') : Edged (run ++ rest) (run ++ rest') := by
  induction run with
  | nil => exact more
  | cons c run ih =>
    obtain ⟨noDigit, others⟩ := List.forall_mem_cons.1 noDigits
    exact .other noDigit (ih others)

/-- Runs of characters that are all digits or all other ones, in turn. -/
def InTurn (runs : List (List Char)) : Prop :=
  (∀ run ∈ runs, run ≠ [] ∧ ∀ c ∈ run, isAsciiDigit c = run.any isAsciiDigit) ∧
    runs.IsChain fun run next => run.any isAsciiDigit ≠ next.any isAsciiDigit

/-- Neighbours that are both digits or both none make all characters so. -/
theorem uniform_of_isChain {run : List Char}
    (chain : run.IsChain fun a b => (isAsciiDigit a == isAsciiDigit b) = true) :
    ∀ c ∈ run, isAsciiDigit c = run.any isAsciiDigit := by
  induction run with
  | nil => exact List.forall_mem_nil _
  | cons a run ih =>
    cases run with
    | nil => simp
    | cons b run =>
      obtain ⟨same, chain⟩ := List.isChain_cons_cons.1 chain
      have alike := List.forall_mem_cons.1 (ih chain)
      have whole : (a :: b :: run).any isAsciiDigit = (b :: run).any isAsciiDigit := by
        rw [List.any_cons, eq_of_beq same, alike.1, Bool.or_self]
      rw [whole]
      exact List.forall_mem_cons.2 ⟨(eq_of_beq same).trans alike.1, ih chain⟩

theorem inTurn_digitRuns (line : List Char) : InTurn (digitRuns line) := by
  have uniform : ∀ run ∈ digitRuns line, ∀ c ∈ run, isAsciiDigit c = run.any isAsciiDigit := by
    intro run member
    exact uniform_of_isChain (List.isChain_of_mem_splitBy member)
  have nonempty : ∀ run ∈ digitRuns line, run ≠ [] := by
    rintro run member rfl
    exact List.nil_notMem_splitBy _ _ member
  refine ⟨fun run member => ⟨nonempty run member, uniform run member⟩, ?_⟩
  refine List.IsChain.imp_of_mem_imp ?_ (List.isChain_getLast_head_splitBy
    (fun a b => isAsciiDigit a == isAsciiDigit b) line)
  rintro run next here there ⟨filled, filled', differ⟩
  rw [uniform run here _ (List.getLast_mem filled),
    uniform next there _ (List.head_mem filled')] at differ
  exact ne_of_beq_false differ

theorem yields_edgeRun (run : List Char) :
    Yields (edgeRun run) fun new =>
      new = run ∨ run.any isAsciiDigit = true ∧ new ∈ int64Edges := by
  unfold edgeRun
  cases digits : run.any isAsciiDigit with
  | false => exact yields_pure (.inl rfl)
  | true =>
    refine yields_bind fun replaced => yields_ite ?_ (yields_pure (.inl rfl))
    exact yields_pick (by decide) fun new member => .inr ⟨rfl, member⟩

/-- Behind a run of digits in turn stands no digit. -/
theorem InTurn.head?_flatten {run : List Char} {runs : List (List Char)}
    (inTurn : InTurn (run :: runs)) (digits : run.any isAsciiDigit = true) {c : Char}
    (head : runs.flatten.head? = some c) : isAsciiDigit c = false := by
  obtain ⟨each, chain⟩ := inTurn
  cases runs with
  | nil => cases head
  | cons next runs =>
    obtain ⟨nonempty, uniform⟩ := each next (by simp)
    obtain ⟨d, tail, rfl⟩ := List.exists_cons_of_ne_nil nonempty
    obtain rfl : d = c := Option.some.inj head
    have differ := (List.isChain_cons_cons.1 chain).1
    rw [digits, ← uniform d List.mem_cons_self] at differ
    simpa using differ.symm

/-- Runs in turn are kept or replaced one by one. -/
theorem yields_edgeRuns {runs : List (List Char)} (inTurn : InTurn runs) :
    Yields (runs.mapM edgeRun) fun news => Edged runs.flatten news.flatten := by
  induction runs with
  | nil => exact yields_pure .nil
  | cons run runs ih =>
    obtain ⟨⟨nonempty, uniform⟩, others⟩ := List.forall_mem_cons.1 inTurn.1
    rw [List.mapM_cons]
    refine (yields_edgeRun run).bind fun new edge => ?_
    refine (ih ⟨others, inTurn.2.tail⟩).bind fun news more => yields_pure ?_
    rw [List.flatten_cons, List.flatten_cons]
    cases digits : run.any isAsciiDigit with
    | false =>
      rw [digits] at uniform edge
      obtain rfl : new = run := by simpa using edge
      exact .others uniform more
    | true =>
      rw [digits] at uniform edge
      exact .run nonempty uniform (fun c => inTurn.head?_flatten digits) (by simpa using edge) more

/-! ## What mutations give -/

/-- The texts that are put into lines. -/
inductive Insertable : List Char → Prop where
  | separator {text : List Char} (known : text ∈ separators) : Insertable text
  | key {name : List Char} (named : IsIdentifier name) : Insertable (name ++ [':'])
  | flag {name : List Char} (named : IsIdentifier name) : Insertable ('-' :: name)
  | value {d : Draft} (drawable : d.Drawable nesting) : Insertable d.written

/-- What a mutation may make of a line. -/
inductive Mutation.Gives : Mutation → List Char → List Char → Prop where
  | inserted {before after token : List Char} (insertable : Insertable token) :
    Gives insertToken (before ++ after) (before ++ token ++ after)
  | short {line : List Char} (short : line.length < 2) : Gives dropSpan line line
  | dropped {before gone after : List Char} (long : 2 ≤ (before ++ gone ++ after).length)
      (least : 1 ≤ gone.length) (most : gone.length ≤ 8) :
    Gives dropSpan (before ++ gone ++ after) (before ++ after)
  | swapped {before old new after : List Char} (delimiter : Delimiter before old)
      (known : new ∈ delimiters) :
    Gives swapDelimiter (before ++ old ++ after) (before ++ new ++ after)
  | unswapped {line : List Char}
      (none : ∀ before old after, line = before ++ old ++ after → ¬ Delimiter before old) :
    Gives swapDelimiter line line
  | glued {before gap after : List Char} (blank : Blank gap) (nonempty : gap ≠ [])
      (left : ∀ c, before.getLast? = some c → isBlank c = false)
      (right : ∀ c, after.head? = some c → isBlank c = false) :
    Gives glueTokens (before ++ gap ++ after) (before ++ after)
  | unglued {line : List Char} (none : ∀ c ∈ line, isBlank c = false) : Gives glueTokens line line
  | wrapped {before piece after left right : List Char} (whole : ' ' ∉ piece)
      (first : before = [] ∨ before.getLast? = some ' ')
      (last : after = [] ∨ after.head? = some ' ') (pair : (left, right) ∈ wrappers) :
    Gives wrapToken (before ++ piece ++ after) (before ++ (left ++ piece ++ right) ++ after)
  | edged {line result : List Char} (edged : Edged line result) : Gives edgeRuns line result

open Mutation (Gives)

theorem yields_insertToken (line : List Char) :
    Yields (insertToken line) (Gives .insertToken line) := by
  refine yields_bind fun place => ?_
  refine (yields_pick (p := (· ∈ separators)) (by decide) fun _ => id).bind
    fun separator known => ?_
  refine yields_identifier.bind fun key named => ?_
  refine yields_identifier.bind fun flag named' => ?_
  refine (yields_value nesting).bind fun anything drawable => ?_
  refine (yields_pick (p := Insertable) (by simp) ?_).bind fun token insertable => yields_pure ?_
  · intro token member
    have cases : token = separator ∨ token = key ++ [':'] ∨ token = '-' :: flag ∨
        token = anything.written := by simpa using member
    rcases cases with rfl | rfl | rfl | rfl
    · exact .separator known
    · exact .key named
    · exact .flag named'
    · exact .value drawable
  · have given : Gives .insertToken (line.take place ++ line.drop place)
        (line.take place ++ token ++ line.drop place) := .inserted insertable
    rwa [List.take_append_drop] at given

theorem yields_dropSpan (line : List Char) : Yields (dropSpan line) (Gives .dropSpan line) := by
  unfold dropSpan
  split
  · next short => exact yields_pure (.short short)
  · next long =>
    refine (yields_below (by omega)).bind fun start inside => ?_
    refine (yields_between (by decide)).bind fun length bounds => yields_pure ?_
    have split : line.take start ++ (line.drop start).take length ++
        line.drop (start + length) = line := by
      rw [← List.drop_drop, List.append_assoc, List.take_append_drop, List.take_append_drop]
    have given : Gives .dropSpan
        (line.take start ++ (line.drop start).take length ++ line.drop (start + length))
        (line.take start ++ line.drop (start + length)) := by
      refine .dropped ?_ ?_ ?_
      · rw [split]
        omega
      · rw [List.length_take, List.length_drop]
        omega
      · rw [List.length_take]
        omega
    rw [split] at given
    simpa [replaceSpan] using given

theorem yields_swapDelimiter (line : List Char) :
    Yields (swapDelimiter line) (Gives .swapDelimiter line) := by
  unfold swapDelimiter
  dsimp only
  split
  · next nothing =>
    refine yields_pure (.unswapped ?_)
    intro before old after split delimiter
    rw [List.append_assoc] at split
    have filled : old ++ after ≠ [] := by cases delimiter <;> simp
    exact delimiter.length_pos after (lengthAt_of_spansFrom nothing split filled)
  · next found =>
    refine (yields_pick (p := (· ∈ spansFrom delimiterLength 0 line)) found fun _ => id).bind
      fun span member => ?_
    refine (yields_pick (p := (· ∈ delimiters)) (by decide) fun _ => id).bind
      fun new known => yields_pure ?_
    obtain ⟨before, behind, fresh, more, split, replaced⟩ :=
      search_delimiters.exists_of_mem member
    rw [replaced new]
    subst split
    exact .swapped (fresh.found more).1 known

theorem yields_glueTokens (line : List Char) :
    Yields (glueTokens line) (Gives .glueTokens line) := by
  unfold glueTokens
  dsimp only
  split
  · next nothing =>
    refine yields_pure (.unglued ?_)
    intro c member
    obtain ⟨before, behind, split⟩ := List.append_of_mem member
    have none := lengthAt_of_spansFrom nothing split (List.cons_ne_nil c behind)
    exact blankLength_eq_zero_iff.1 none c rfl
  · next found =>
    refine (yields_pick (p := (· ∈ spansFrom blankLength 0 line)) found fun _ => id).bind
      fun span member => yields_pure ?_
    obtain ⟨before, behind, parted, more, split, replaced⟩ := search_blanks.exists_of_mem member
    obtain ⟨blank, nonempty, left⟩ := parted.found more
    rw [replaced, List.append_nil]
    subst split
    refine .glued blank nonempty left ?_
    rw [drop_blankLength]
    intro c
    exact head?_dropWhile_isBlank

theorem yields_wrapToken (line : List Char) : Yields (wrapToken line) (Gives .wrapToken line) := by
  have some : 0 < (line.splitOn ' ').length :=
    List.length_pos_iff.2 (List.splitOnP_ne_nil _ line)
  refine (yields_below some).bind fun place inside => ?_
  refine (yields_pick (p := (· ∈ wrappers)) (by decide) fun _ => id).bind
    fun pair known => yields_pure ?_
  obtain ⟨left, right⟩ := pair
  obtain ⟨front, piece, back, pieces, -, wrapped⟩ :=
    List.exists_of_modify (fun piece => left ++ piece ++ right) inside
  have whole : ' ' ∉ piece := by
    have member : piece ∈ line.splitOn ' ' := by
      rw [pieces]
      exact List.mem_append_right _ List.mem_cons_self
    exact notMem_of_mem_splitOn member
  have split : line = front.flatMap (· ++ [' ']) ++ piece ++ back.flatMap (' ' :: ·) := by
    rw [← intercalate_append_cons, ← pieces, List.intercalate_splitOn]
  dsimp only
  rw [wrapped, joined, intercalate_append_cons]
  have given : Gives .wrapToken (front.flatMap (· ++ [' ']) ++ piece ++ back.flatMap (' ' :: ·))
      (front.flatMap (· ++ [' ']) ++ (left ++ piece ++ right) ++ back.flatMap (' ' :: ·)) := by
    refine .wrapped whole ?_ ?_ known
    · rcases List.eq_nil_or_concat front with rfl | ⟨others, last, rfl⟩
      · exact .inl rfl
      · right
        simp
    · cases back with
      | nil => exact .inl rfl
      | cons next back => exact .inr rfl
  rwa [← split] at given

theorem yields_apply (kind : Mutation) (line : List Char) :
    Yields (kind.apply line) (kind.Gives line) := by
  cases kind with
  | insertToken => exact yields_insertToken line
  | dropSpan => exact yields_dropSpan line
  | swapDelimiter => exact yields_swapDelimiter line
  | glueTokens => exact yields_glueTokens line
  | wrapToken => exact yields_wrapToken line
  | edgeRuns =>
    refine (yields_edgeRuns (inTurn_digitRuns line)).bind fun news edged => yields_pure (.edged ?_)
    rwa [digitRuns, List.flatten_splitBy] at edged

/-- Every line can be changed, whatever is drawn: no choice is made from nothing, and the mutation
that is chosen gives what it may. -/
theorem mutate_gives (line : List Char) (source : Source) :
    (mutate line : Attempt (List Char)) source =
      some ((mutate line : Draw (List Char)).run source) ∧
    ((pick Mutation.all : Draw Mutation).run source).1.Gives line
      ((mutate line : Draw (List Char)).run source).1 := by
  constructor
  · rw [← Attempt.ofDraw_mutate]
    rfl
  · exact yields_apply _ line _

end CommandLine.Fuzz
