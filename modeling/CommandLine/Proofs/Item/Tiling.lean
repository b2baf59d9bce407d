import CommandLine.Proofs.Item.Course
import CommandLine.Proofs.Tree.Leaves

/-!
# Tilings

A line that is accepted is cut into blanks, marks and tokens, with nothing between them
(`Item.tiling_of_ofText`). From this: the tokens stand in the line one behind the other, each where
the line tells, and the rest of the line are blanks and the marks that were read.
-/

namespace CommandLine
open CommandLine.Text

/-- A text behind another one, cut into blanks, tokens and marks, each before something that may
follow it. -/
inductive Tiling : List Char → List Token → List Char → List Char → Prop where
  | blank {front gap : List Char} (blank : Blank gap) : Tiling front [] [] gap
  | mark {front gap marks rest : List Char} {tokens : List Token} {t : Terminal} {c : Char}
      (blank : Blank gap) (mark : t.mark? = some c) (follows : t.follow rest = true)
      (tail : Tiling (front ++ gap ++ [c]) tokens marks rest) :
      Tiling front tokens (c :: marks) (gap ++ (c :: rest))
  | token {front gap text marks rest : List Char} {tokens : List Token} {t : Terminal}
      (blank : Blank gap) (kept : t.mark? = none) (proper : text ≠ [])
      (follows : t.follow rest = true) (tail : Tiling (front ++ gap ++ text) tokens marks rest) :
      Tiling front (.read t text (Position.start.advance (front ++ gap)) :: tokens) marks
        (gap ++ (text ++ rest))

/-! ## What was read is tiled -/

/-- The tokens that are kept of a token: itself, unless it is a mark. -/
def Terminal.kept (t : Terminal) (token : Token) : List Token :=
  match t.mark? with
  | some _ => []
  | none => [token]

/-- The tokens before a value that takes its place. -/
def Slot.tokens : Slot → List Token
  | argument => []
  | keyword key => [key]
  | element before outer =>
    outer.tokens ++ before.reverse.flatMap fun p => (Tree.ofPhrase p).tokens

namespace State

/-- The tokens that are kept of what was read before a state. -/
def tokens : State → List Token
  | between items _ => items.reverse.flatMap fun item => (Tree.ofItem item).tokens
  | awaiting items slot =>
    (items.reverse.flatMap fun item => (Tree.ofItem item).tokens) ++ slot.tokens
  | within items elements outer =>
    (items.reverse.flatMap fun item => (Tree.ofItem item).tokens) ++
      (outer.tokens ++ elements.reverse.flatMap fun p => (Tree.ofPhrase p).tokens)

theorem tokens_fill (items : List Item) (slot : Slot) (value : Phrase) :
    (fill items slot value).tokens =
      (items.reverse.flatMap fun item => (Tree.ofItem item).tokens) ++
        (slot.tokens ++ (Tree.ofPhrase value).tokens) := by
  cases slot <;> simp [fill, tokens, Slot.tokens, Tree.ofItem, Tree.tokens, Tree.tokensAll]

theorem tokens_shift {s next : State} {t : Terminal} {token : Token}
    (shifted : s.shift t token = some next) : next.tokens = s.tokens ++ t.kept token := by
  cases shifts_of_shift shifted with
  | key | openArgument | openElement | comma =>
    simp [tokens, Slot.tokens, Terminal.kept, Terminal.mark?]
  | flag =>
    simp [tokens, Terminal.kept, Terminal.mark?, Tree.ofItem, Tree.tokens_wrap, Tree.tokens]
  | argument | scalar =>
    rw [tokens_fill, Tree.tokens_scalar]
    simp [tokens, Slot.tokens, Terminal.kept, Terminal.mark?]
  | closeBracket =>
    rw [tokens_fill, Tree.tokens_list]
    simp [tokens, Terminal.kept, Terminal.mark?]

end State

namespace Item

variable {a b : Stage} {t : Terminal} {front lexeme marks : List Char} {tokens : List Token}

theorem Steps.tiling (h : Steps a t lexeme b) (place : a.here = Position.start.advance front)
    (tail : Tiling (front ++ a.gap ++ lexeme) tokens marks b.left) :
    Tiling front (t.kept (.read t lexeme a.there) ++ tokens) (t.mark?.toList ++ marks) a.left := by
  obtain ⟨scanned, follows⟩ := follow_of_firstScan h.found
  obtain ⟨split, proper⟩ := h.split
  have there : a.there = Position.start.advance (front ++ a.gap) := by
    rw [Stage.there, place, Position.advance_append]
  rw [split, Terminal.kept, there]
  cases mark : t.mark? with
  | some c =>
    obtain rfl := Terminal.text_of_mark mark scanned
    exact .mark a.blank_gap mark follows tail
  | none => exact .token a.blank_gap mark proper follows tail

/-- What is read up to the end of a text tiles that text. -/
theorem Reaches.tiling (h : Reaches a b) (nothing : b.ahead = []) (readable : a.state.Readable)
    (place : a.here = Position.start.advance front) :
    ∃ tokens marks, Tiling front tokens marks a.left ∧
      b.state.tokens = a.state.tokens ++ tokens ∧
        Lexeme.marks b.state.lexemes = Lexeme.marks a.state.lexemes ++ marks := by
  -- Along the run the text before the stage grows, and with it the text before the tiling.
  induction h generalizing front with
  | refl a =>
    have blank : Blank a.left := skipBlanks_eq_nil_iff.1 nothing
    exact ⟨[], [], .blank blank, by simp, by simp⟩
  | @step a b c t lexeme first more ih =>
    obtain ⟨scanned, -⟩ := follow_of_firstScan first.found
    have readable' := State.readable_shift readable
      (reads_of_firstScan first.found first.shifted) first.shifted
    have place' : b.here = Position.start.advance (front ++ a.gap ++ lexeme) := by
      rw [first.place, Stage.there, place, Position.advance_append, Position.advance_append]
    obtain ⟨tokens, marks, tail, hTokens, hMarks⟩ := ih nothing readable' place'
    refine ⟨_, _, first.tiling place tail, ?_, ?_⟩
    · rw [hTokens, State.tokens_shift first.shifted, List.append_assoc]
    · have one : Lexeme.marks [(t, lexeme)] = t.mark?.toList := by
        cases mark : t.mark? <;> simp [Lexeme.marks, mark]
      rw [hMarks, State.lexemes_shift readable scanned first.shifted, Lexeme.marks_append, one,
        List.append_assoc]

/-- A line that is accepted is tiled by the tokens of its items and the marks of its lists. -/
theorem tiling_of_ofText {cs : List Char} {items : List Item} (accepted : ofText cs = .ok items) :
    Tiling [] (Tree.ofItems items).tokens (Lexeme.marks (items.flatMap lexemes)) cs := by
  obtain ⟨a, reached, ends⟩ := (Stage.result_eq_iff (a := .first cs)).1 accepted
  have place : (Stage.first cs).here = Position.start.advance [] := rfl
  cases ends with
  | accepted nothing finished =>
    obtain ⟨tokens, marks, tiling, hTokens, hMarks⟩ :=
      reached.tiling nothing State.readable_initial place
    cases state : a.state with
    | between items' afterValue =>
      obtain rfl : items'.reverse = items := by simpa [state, State.items?] using finished
      rw [state] at hTokens hMarks
      have noTokens : (Stage.first cs).state.tokens = [] := rfl
      have noMarks : Lexeme.marks (Stage.first cs).state.lexemes = [] := rfl
      rw [noTokens, List.nil_append] at hTokens
      rw [noMarks, List.nil_append] at hMarks
      rw [Tree.tokens_ofItems]
      show Tiling [] (State.between items' afterValue).tokens
        (Lexeme.marks (State.between items' afterValue).lexemes) cs
      rw [hTokens, hMarks]
      exact tiling
    | _ => simp [state, State.items?] at finished

end Item

/-! ## Tokens in their places -/

theorem Token.start_read (t : Terminal) (text front : List Char) :
    (Token.read t text (Position.start.advance front)).start.offset = front.length :=
  Position.offset_start_advance front

theorem Token.stop_read (t : Terminal) (text front : List Char) :
    (Token.read t text (Position.start.advance front)).stop.offset = (front ++ text).length := by
  rw [← Position.offset_start_advance, Position.advance_append]
  rfl

/-- A token that is cut out of a text at its place, before something that may follow it. -/
structure Token.Stands (text : String) (token : Token) : Prop where
  proper : token.start.offset < token.stop.offset
  inside : token.stop.offset ≤ text.length
  cut : token.text.toList = text.toList.extract token.start.offset token.stop.offset
  place : token.start = (ParseError.atOffset text token.start.offset []).position
  kind : token.symbol = .terminal .key ∨ token.symbol = .terminal .flag ∨
    ∃ form, token.symbol = .terminal (.scalar form)
  value : ∀ form, token.symbol = .terminal (.scalar form) →
    Terminal.endsValue (text.toList.drop token.stop.offset) = true
  flag : token.symbol = .terminal .flag →
    Terminal.endsWord (text.toList.drop token.stop.offset) = true

theorem Token.stands_read {text : String} {t : Terminal} {front lexeme rest : List Char}
    (split : text.toList = front ++ (lexeme ++ rest)) (kept : t.mark? = none)
    (proper : lexeme ≠ []) (follows : t.follow rest = true) :
    (Token.read t lexeme (Position.start.advance front)).Stands text := by
  have positive := List.length_pos_iff.2 proper
  have start := Token.start_read t lexeme front
  have stop := Token.stop_read t lexeme front
  have behind : text.toList = (front ++ lexeme) ++ rest := by rw [split, List.append_assoc]
  have left : text.toList.drop (Token.read t lexeme (Position.start.advance front)).stop.offset =
      rest := by rw [stop, behind, List.drop_left]
  constructor
  case proper =>
    rw [start, stop, List.length_append]
    omega
  case inside =>
    rw [stop, ← String.length_toList, behind]
    exact (List.sublist_append_left _ _).length_le
  case cut =>
    rw [start, stop, Token.toList_text_read, List.extract_eq_take_drop, split, List.drop_left,
      List.length_append, Nat.add_sub_cancel_left, List.take_left]
  case place =>
    rw [start, ParseError.atOffset, ParseError.position, split, Position.locate_append]
    rfl
  case kind => cases t <;> simp_all [Token.read, Terminal.mark?]
  case value =>
    rintro form same
    obtain rfl : t = .scalar form := by simpa [Token.read] using same
    rw [left]
    exact follows
  case flag =>
    intro same
    obtain rfl : t = .flag := by simpa [Token.read] using same
    rw [left]
    exact follows

/-! ## What stands outside the tokens -/

/-- Whether an offset lies in a token. -/
def Token.spans (token : Token) (offset : Nat) : Bool :=
  decide (token.start.offset ≤ offset ∧ offset < token.stop.offset)

/-- The characters outside some tokens, each with its offset, of a text that begins at an offset. -/
def outside (tokens : List Token) (offset : Nat) (cs : List Char) : List (Char × Nat) :=
  (cs.zipIdx offset).filter fun x => !tokens.any (·.spans x.2)

section Outside

variable {tokens : List Token} {token : Token} {cs : List Char} {offset : Nat}

theorem outside_append (tokens : List Token) (offset : Nat) (cs ds : List Char) :
    outside tokens offset (cs ++ ds) =
      outside tokens offset cs ++ outside tokens (offset + cs.length) ds := by
  rw [outside, List.zipIdx_append, List.filter_append]
  rfl

theorem outside_before (h : ∀ token ∈ tokens, offset + cs.length ≤ token.start.offset) :
    outside tokens offset cs = cs.zipIdx offset := by
  refine List.filter_eq_self.2 fun x member => ?_
  obtain ⟨-, inside, -⟩ := List.mem_zipIdx member
  have apart : ∀ token ∈ tokens, token.spans x.2 = false := by
    intro token among
    have later := h token among
    simp only [Token.spans, decide_eq_false_iff_not]
    omega
  simpa using apart

theorem outside_cons_behind (h : token.stop.offset ≤ offset) :
    outside (token :: tokens) offset cs = outside tokens offset cs := by
  refine List.filter_congr fun x member => ?_
  obtain ⟨later, -⟩ := List.mem_zipIdx member
  have apart : token.spans x.2 = false := by
    simp only [Token.spans, decide_eq_false_iff_not]
    omega
  rw [List.any_cons, apart, Bool.false_or]

theorem outside_cons_within (first : token.start.offset ≤ offset)
    (last : offset + cs.length ≤ token.stop.offset) : outside (token :: tokens) offset cs = [] := by
  refine List.filter_eq_nil_iff.2 fun x member => ?_
  obtain ⟨later, inside, -⟩ := List.mem_zipIdx member
  have spans : token.spans x.2 = true := by
    simp only [Token.spans, decide_eq_true_eq]
    omega
  simp [spans]

end Outside

/-! ## What a tiling says -/

namespace Tiling

variable {front marks cs : List Char} {tokens : List Token}

theorem later (h : Tiling front tokens marks cs) :
    ∀ token ∈ tokens, front.length ≤ token.start.offset := by
  induction h with
  | blank => simp
  | mark blank mark follows tail ih =>
    intro token member
    have behind := ih token member
    simp only [List.length_append] at behind
    omega
  | token blank kept proper follows tail ih =>
    refine List.forall_mem_cons.2 ⟨?_, fun token member => ?_⟩
    · rw [Token.start_read, List.length_append]
      omega
    · have behind := ih token member
      simp only [List.length_append] at behind
      omega

theorem ascending (h : Tiling front tokens marks cs) :
    tokens.Pairwise fun k l => k.stop.offset ≤ l.start.offset := by
  induction h with
  | blank => exact .nil
  | mark blank mark follows tail ih => exact ih
  | token blank kept proper follows tail ih =>
    refine List.pairwise_cons.2 ⟨fun token member => ?_, ih⟩
    rw [Token.stop_read]
    exact tail.later token member

theorem stands {text : String} (h : Tiling front tokens marks cs)
    (split : text.toList = front ++ cs) : ∀ token ∈ tokens, token.Stands text := by
  induction h with
  | blank => simp
  | mark blank mark follows tail ih => exact ih (by simpa using split)
  | token blank kept proper follows tail ih =>
    have split' := split
    rw [← List.append_assoc] at split'
    exact List.forall_mem_cons.2
      ⟨Token.stands_read split' kept proper follows, ih (by simpa using split)⟩

theorem outside_mark {gap rest : List Char} {c : Char}
    (tail : Tiling (front ++ gap ++ [c]) tokens marks rest) :
    outside tokens front.length (gap ++ (c :: rest)) =
      gap.zipIdx front.length ++ (c, (front ++ gap).length) ::
        outside tokens (front ++ gap ++ [c]).length rest := by
  have later : ∀ token ∈ tokens, front.length + (gap ++ [c]).length ≤ token.start.offset := by
    intro token member
    have behind := tail.later token member
    rwa [List.append_assoc, List.length_append] at behind
  have split : gap ++ (c :: rest) = (gap ++ [c]) ++ rest := by simp
  have behind : (front ++ gap ++ [c]).length = front.length + (gap ++ [c]).length := by
    rw [List.append_assoc, List.length_append]
  have here : (front ++ gap).length = front.length + gap.length := List.length_append
  rw [split, outside_append, outside_before later, List.zipIdx_append, behind, here,
    List.append_assoc]
  rfl

theorem outside_token {gap text rest : List Char} {t : Terminal}
    (tail : Tiling (front ++ gap ++ text) tokens marks rest) :
    outside (.read t text (Position.start.advance (front ++ gap)) :: tokens) front.length
        (gap ++ (text ++ rest)) =
      gap.zipIdx front.length ++ outside tokens (front ++ gap ++ text).length rest := by
  have start := Token.start_read t text (front ++ gap)
  have stop := Token.stop_read t text (front ++ gap)
  -- The blanks stand before all tokens, the lexeme within the first one, the rest behind it.
  rw [List.length_append] at start
  rw [List.length_append, List.length_append] at stop
  rw [outside_append, outside_append, outside_before, outside_cons_within, outside_cons_behind,
    List.nil_append, List.length_append, List.length_append]
  · exact Nat.le_of_eq stop
  · exact Nat.le_of_eq start
  · exact Nat.le_of_eq stop.symm
  · refine List.forall_mem_cons.2 ⟨Nat.le_of_eq start.symm, fun token member => ?_⟩
    have behind := tail.later token member
    simp only [List.length_append] at behind
    omega

theorem filter_blank_zipIdx {gap : List Char} (blank : Blank gap) (offset : Nat) :
    ((gap.zipIdx offset).map Prod.fst).filter (!isBlank ·) = [] := by
  rw [List.zipIdx_map_fst]
  exact List.filter_eq_nil_iff.2 fun c member => by simp [blank c member]

theorem ne_of_mem_zipIdx {gap : List Char} {offset : Nat} {c : Char} (blank : Blank gap)
    (visible : isBlank c = false) : ∀ x ∈ gap.zipIdx offset, x.1 ≠ c := by
  rintro x member rfl
  rw [blank x.1 (List.fst_mem_of_mem_zipIdx member)] at visible
  cases visible

/-- What is no blank outside the tokens are the marks. -/
theorem filter_outside (h : Tiling front tokens marks cs) :
    ((outside tokens front.length cs).map Prod.fst).filter (!isBlank ·) = marks := by
  induction h with
  | @blank front gap blank =>
    rw [outside_before (by simp)]
    exact filter_blank_zipIdx blank _
  | @mark front gap marks rest tokens t c blank mark follows tail ih =>
    have visible : isBlank c = false := Terminal.visible_of_mark mark
    rw [outside_mark tail, List.map_append, List.filter_append, filter_blank_zipIdx blank,
      List.map_cons, List.filter_cons_of_pos (by simp [visible]), ih, List.nil_append]
  | token blank kept proper follows tail ih =>
    rw [outside_token tail, List.map_append, List.filter_append, filter_blank_zipIdx blank, ih,
      List.nil_append]

/-- Behind a closing bracket outside the tokens a value may end. -/
theorem endsValue_of_closeBracket (h : Tiling front tokens marks cs) :
    ∀ x ∈ outside tokens front.length cs, x.1 = ']' →
      Terminal.endsValue ((front ++ cs).drop (x.2 + 1)) = true := by
  have unlike {gap : List Char} (blank : Blank gap) {offset : Nat} :
      ∀ x ∈ gap.zipIdx offset, x.1 ≠ ']' := ne_of_mem_zipIdx blank (by decide)
  induction h with
  | @blank front gap blank =>
    rw [outside_before (by simp)]
    exact fun x member closes => absurd closes (unlike blank x member)
  | @mark front gap marks rest tokens t c blank mark follows tail ih =>
    rw [outside_mark tail]
    refine List.forall_mem_append.2 ⟨?_, List.forall_mem_cons.2 ⟨?_, ?_⟩⟩
    · exact fun x member closes => absurd closes (unlike blank x member)
    · -- The mark is this bracket, so its terminal asks for the end of a value behind it.
      rintro rfl
      have closeBracket : t = .closeBracket := by cases t <;> simp_all [Terminal.mark?]
      have split : front ++ (gap ++ ']' :: rest) = (front ++ gap ++ [']']) ++ rest := by simp
      have size : (front ++ gap ++ [']']).length = (front ++ gap).length + 1 :=
        List.length_append
      subst closeBracket
      show Terminal.endsValue (List.drop ((front ++ gap).length + 1) _) = true
      rw [split, ← size, List.drop_left]
      exact follows
    · simpa using ih
  | @token front gap text marks rest tokens t blank kept proper follows tail ih =>
    rw [outside_token tail]
    refine List.forall_mem_append.2 ⟨?_, ?_⟩
    · exact fun x member closes => absurd closes (unlike blank x member)
    · simpa using ih

end Tiling

end CommandLine
