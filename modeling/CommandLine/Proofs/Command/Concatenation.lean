import CommandLine.Proofs.Item.Meaning

/-!
# Lines behind lines

What is written behind a line that gives a command, with blanks between, says what it says alone:
its values come behind those of the first line, its bindings are made on top of the first ones, and
it fails as it fails alone (`Command.parse_append`).
-/

namespace CommandLine
open CommandLine.Text

/-! ## Bindings on top of others -/

namespace Bindings

variable {α : Type} {b c d : Bindings α}

/-- The bindings `d` are those of `c` made on top of `b`: a name keeps its place in `b` and takes
its value from `c`, and the names that only `c` has come behind, in their order. -/
structure OnTop (b c d : Bindings α) : Prop where
  names : d.names = b.names ++ c.names.filter (· ∉ b.names)
  values : ∀ name, d.get? name = (c.get? name).or (b.get? name)

theorem onTop_empty (b : Bindings α) : OnTop b empty b := by
  refine ⟨?_, fun name => ?_⟩
  · simp [empty, Bindings.names]
  · simp [empty, get?]

/-- Binding one more name. -/
theorem onTop_insert (h : OnTop b c d) (name : String) (value : α) :
    OnTop b (c.insert name value) (d.insert name value) := by
  refine ⟨?_, fun other => ?_⟩
  · have bound : name ∈ d.names ↔ name ∈ b.names ∨ name ∈ c.names := by
      by_cases first : name ∈ b.names <;> simp [h.names, first]
    rw [names_insert, names_insert]
    by_cases first : name ∈ b.names
    · rw [if_pos (bound.2 (.inl first)), h.names]
      split <;> simp [first]
    · by_cases second : name ∈ c.names
      · rw [if_pos (bound.2 (.inr second)), if_pos second, h.names]
      · rw [if_neg (by simp [bound, first, second]), if_neg second, h.names]
        simp [first]
  · rw [get?_insert, get?_insert, h.values]
    by_cases asked : other = name <;> simp [asked]

theorem onTop_foldl_insert (h : OnTop b c d) (entries : List (String × α)) :
    OnTop b (entries.foldl (fun c e => c.insert e.1 e.2) c)
      (entries.foldl (fun d e => d.insert e.1 e.2) d) := by
  induction entries generalizing c d with
  | nil => exact h
  | cons e entries ih => exact ih (onTop_insert h e.1 e.2)

/-- Bindings made one after the other are the later ones on top of the earlier ones. -/
theorem onTop_ofList (first second : List (String × α)) :
    OnTop (ofList first) (ofList second) (ofList (first ++ second)) := by
  unfold ofList
  rw [List.foldl_append]
  exact onTop_foldl_insert (onTop_empty _) second

end Bindings

/-! ## Reading on behind a line -/

namespace Item

/-- Reading stops at no place but those that the reader itself tells. -/
theorem readFrom_ne_other (looks : State → Terminal → Bool) (s : State) (here : Position)
    (cs : List Char) (offset : Int) : readFrom looks s here cs ≠ .error (.other offset) := by
  cases going looks s here cs with
  | ends blank =>
    rw [readFrom_end blank]
    cases s.items? <;> simp
  | unread more missing =>
    rw [readFrom_unread more missing, unread]
    cases firstScan Terminal.byPriority (skipBlanks cs) <;> simp
  | refused t lexeme rest found refused => simp [readFrom_refused found refused]
  | shifts t lexeme rest next found shifted =>
    have shorter := length_lt_of_firstScan found
    rw [readFrom_shift found shifted]
    exact readFrom_ne_other looks next _ rest offset
termination_by cs.length

variable {a gap b : List Char} {items : List Item}

/-- Behind a line and blanks a text is read as it is read alone, but for the places of its tokens,
and for what is expected where it is rejected. -/
theorem ofText_append (accepted : ofText a = .ok items) (blank : Blank gap) (apart : gap ≠ []) :
    (ofText (a ++ (gap ++ b))).mapError (Rejection.expecting []) =
      (((ofText b).map fun more =>
          items ++ more.map (Item.placed (Position.start.advance (a ++ gap)).after)).mapError
        (Rejection.after (Position.start.advance (a ++ gap)))).mapError
        (Rejection.expecting []) := by
  have ends : Terminal.endsWord (gap ++ b) = true := by
    obtain ⟨c, gap, rfl⟩ := List.exists_cons_of_ne_nil apart
    exact blank c List.mem_cons_self
  obtain ⟨afterValue, behind⟩ := readFrom_append_of_ok _ _ _ accepted ends
  -- Three things differ from reading the text alone: the state may be behind a value, it holds
  -- the items before, and it begins at another place.
  have first : ofText (a ++ (gap ++ b)) =
      readFrom State.seeks (.between items.reverse afterValue)
        (Position.start.advance (a ++ gap)) b := by
    rw [ofText, behind, readFrom_blank_append blank, Position.advance_append]
  have fresh : (readFrom State.seeks (.between items.reverse afterValue)
        (Position.start.advance (a ++ gap)) b).mapError (Rejection.expecting []) =
      (readFrom State.seeks (.between items.reverse false)
        (Position.start.advance (a ++ gap)) b).mapError (Rejection.expecting []) := by
    cases afterValue with
    | true => exact readFrom_afterValue _ _ _
    | false => rfl
  have above : readFrom State.seeks (.between items.reverse false)
        (Position.start.advance (a ++ gap)) b =
      (readFrom State.seeks .initial (Position.start.advance (a ++ gap)) b).map (items ++ ·) := by
    have below : State.initial.above items.reverse = .between items.reverse false := rfl
    rw [← below, readFrom_above, List.reverse_reverse]
  have placed : readFrom State.seeks .initial (Position.start.advance (a ++ gap)) b =
      ((ofText b).map (List.map (Item.placed (Position.start.advance (a ++ gap)).after))).mapError
        (Rejection.after (Position.start.advance (a ++ gap))) :=
    readFrom_after (Position.start.advance (a ++ gap)) .initial Position.counted_start b
  rw [first, fresh, above, placed]
  cases ofText b <;> rfl

theorem ofText_append_of_ok {more : List Item} (accepted : ofText a = .ok items)
    (blank : Blank gap) (apart : gap ≠ []) (read : ofText b = .ok more) :
    ofText (a ++ (gap ++ b)) =
      .ok (items ++ more.map (Item.placed (Position.start.advance (a ++ gap)).after)) := by
  have both := ofText_append (b := b) accepted blank apart
  rw [read] at both
  cases found : ofText (a ++ (gap ++ b)) with
  | error rejection =>
    rw [found] at both
    cases both
  | ok whole =>
    rw [found] at both
    exact congrArg Except.ok (Except.ok.inj both)

theorem ofText_append_of_error {rejection : Rejection} (accepted : ofText a = .ok items)
    (blank : Blank gap) (apart : gap ≠ []) (rejected : ofText b = .error rejection) :
    ∃ rejection', ofText (a ++ (gap ++ b)) = .error rejection' ∧
      rejection'.expecting [] =
        (rejection.after (Position.start.advance (a ++ gap))).expecting [] := by
  have both := ofText_append (b := b) accepted blank apart
  rw [rejected] at both
  cases found : ofText (a ++ (gap ++ b)) with
  | ok whole =>
    rw [found] at both
    cases both
  | error rejection' =>
    rw [found] at both
    exact ⟨rejection', rfl, Except.error.inj both⟩

end Item

/-! ## Errors behind a line -/

/-- The reason and the offset of an error do not depend on what is expected. -/
theorem Rejection.toError_expecting (rejection : Rejection) (text : String) :
    (rejection.toError text).reason = ((rejection.expecting []).toError text).reason ∧
      (rejection.toError text).offset = ((rejection.expecting []).toError text).offset := by
  cases rejection with
  | token found expected =>
    by_cases last : found.symbol = .endOfInput <;>
      simp [toError, expecting, last, ParseError.atOffset]
  | _ => exact ⟨rfl, rfl⟩

theorem Reason.ofOffset_append (cs ds : List Char) (offset : Nat) :
    ofOffset (cs ++ ds) (cs.length + offset) = ofOffset ds offset := by
  have here : (cs ++ ds)[cs.length + offset]? = ds[offset]? := by
    rw [List.getElem?_append_right (Nat.le_add_right _ _), Nat.add_sub_cancel_left]
  rw [ofOffset, ofOffset, here]

/-- A rejection behind another text is told for the same reason, further on by the length of that
text. -/
theorem Rejection.toError_after {rejection : Rejection} (h : ∀ offset, rejection ≠ .other offset)
    (before text : String) :
    ((rejection.after (Position.start.advance before.toList)).toError (before ++ text)).reason =
        (rejection.toError text).reason ∧
      ((rejection.after (Position.start.advance before.toList)).toError (before ++ text)).offset =
        (rejection.toError text).offset + before.length := by
  have start : (Position.start.advance before.toList).offset = before.length := by
    rw [Position.offset_start_advance, String.length_toList]
  have moved (offset : Nat) (expected : List Symbol) :
      (ParseError.atOffset (before ++ text) (before.length + offset) expected).reason =
        (ParseError.atOffset text offset expected).reason := by
    have same := Reason.ofOffset_append before.toList text.toList offset
    rwa [String.length_toList, ← String.toList_append] at same
  cases rejection with
  | character offset expected =>
    simp only [after, toError, start]
    exact ⟨moved offset expected, Nat.add_comm _ _⟩
  | token found expected =>
    by_cases last : found.symbol = .endOfInput
    · simp only [after, toError, Token.placed, last, if_true, String.length_append]
      exact ⟨moved _ expected, Nat.add_comm _ _⟩
    · simp only [after, toError, Token.placed, last, if_false]
      simp only [Position.after, start]
      exact ⟨trivial, Nat.add_comm _ _⟩
  | endOfInput expected =>
    simp only [after, toError, String.length_append]
    exact ⟨moved _ expected, Nat.add_comm _ _⟩
  | other offset => exact absurd rfl (h offset)

/-- A failure of another line, further on in it. -/
def Failure.moved (line : String) (distance : Nat) : Failure → Failure
  | .line error => .line ⟨line, error.offset + distance, error.expected, error.reason⟩
  | .tree fault => .tree fault

/-- A literal fails behind another text as it fails alone, further on. -/
theorem Literal.failure?_placed (line text : String) (p : Position) (l : Literal) :
    (l.placed p.after).failure? line = (l.failure? text).map (Failure.moved line p.offset) := by
  have further : p.offset + l.token.start.offset = l.token.start.offset + p.offset :=
    Nat.add_comm _ _
  simp only [failure?, obstacle?, fault?, placed, Token.placed, Position.after, Tree.tooLarge,
    further]
  split
  · rfl
  split
  · rfl
  split <;> rfl

theorem Literal.findSome?_failure?_placed (line text : String) (p : Position) (ls : List Literal) :
    (ls.map (placed p.after)).findSome? (failure? line) =
      (ls.findSome? (failure? text)).map (Failure.moved line p.offset) := by
  rw [List.findSome?_map, ← findSome?_map_map]
  congr 1
  funext l
  exact failure?_placed line text p l

namespace Command

/-- Entries one behind the other make up values one behind the other and bindings on top of each
other. -/
theorem ofEntries_append (first second : List (Entry Value)) :
    (ofEntries (first ++ second)).arguments =
        (ofEntries first).arguments ++ (ofEntries second).arguments ∧
      Bindings.OnTop (ofEntries first).bindings (ofEntries second).bindings
        (ofEntries (first ++ second)).bindings := by
  simp only [ofEntries, List.filterMap_append]
  exact ⟨trivial, Bindings.onTop_ofList _ _⟩

section Behind

variable {a b gap : String} {items more : List Item}

/-- Items that are read behind fitting ones fail as they fail alone, further on. -/
theorem parse_append_of_ofText (read : Item.ofText a.toList = .ok items)
    (fit : ∀ l ∈ items.flatMap Item.literals, l.Fits) (blank : Blank gap.toList)
    (apart : gap.toList ≠ []) (reads : Item.ofText b.toList = .ok more) :
    parse (a ++ gap ++ b) =
      okUnless (((more.flatMap Item.literals).findSome? (Literal.failure? b)).map
          (Failure.moved (a ++ gap ++ b) (a.length + gap.length)))
        (ofEntries (items.map Item.entry ++ more.map Item.entry)) := by
  have whole : (a ++ gap ++ b).toList = a.toList ++ (gap.toList ++ b.toList) := by simp
  have both := Item.ofText_append_of_ok read blank apart reads
  rw [← whole] at both
  have distance : (Position.start.advance (a.toList ++ gap.toList)).offset =
      a.length + gap.length := by
    rw [Position.offset_start_advance, List.length_append, String.length_toList,
      String.length_toList]
  have fine : (items.flatMap Item.literals).findSome? (Literal.failure? (a ++ gap ++ b)) = none :=
    List.findSome?_eq_none_iff.2 fun l member => Literal.failure?_eq_none_iff.2 (fit l member)
  rw [parse_of_ofText both, List.flatMap_append, List.findSome?_append, fine, Option.none_or,
    Item.flatMap_literals_placed, Literal.findSome?_failure?_placed _ b, distance, List.map_append,
    Item.map_entry_placed]

/-- A text that is rejected is rejected behind items for the same reason, further on. -/
theorem parse_append_of_rejection {rejection : Rejection} (read : Item.ofText a.toList = .ok items)
    (blank : Blank gap.toList) (apart : gap.toList ≠ [])
    (rejected : Item.ofText b.toList = .error rejection) :
    ∃ error', parse (a ++ gap ++ b) = .error (.line error') ∧
      error'.reason = (rejection.toError b).reason ∧
      error'.offset = (rejection.toError b).offset + a.length + gap.length := by
  have whole : (a ++ gap ++ b).toList = a.toList ++ (gap.toList ++ b.toList) := by simp
  obtain ⟨rejection', rejected', alike⟩ :=
    Item.ofText_append_of_error read blank apart rejected
  rw [← whole] at rejected'
  have known : ∀ offset, rejection ≠ .other offset := fun offset same =>
    Item.readFrom_ne_other _ _ _ _ offset (same ▸ rejected)
  obtain ⟨reason, offset⟩ := Rejection.toError_after known (a ++ gap) b
  obtain ⟨reason', offset'⟩ := Rejection.toError_expecting rejection' (a ++ gap ++ b)
  obtain ⟨reason'', offset''⟩ := Rejection.toError_expecting
    (rejection.after (Position.start.advance (a ++ gap).toList)) (a ++ gap ++ b)
  rw [String.toList_append] at reason offset reason'' offset''
  refine ⟨rejection'.toError (a ++ gap ++ b), parse_of_rejection rejected', ?_, ?_⟩
  · rw [reason', alike, ← reason'', reason]
  · rw [offset', alike, ← offset'', offset, String.length_append, Nat.add_assoc]

end Behind

/-- What is written behind a line that gives a command says what it says alone, or fails as it
fails alone. -/
theorem parse_append {a b gap : String} {first : Command} (accepted : parse a = .ok first)
    (blank : Blank gap.toList) (apart : gap ≠ "") :
    (∀ second, parse b = .ok second → ∃ both, parse (a ++ gap ++ b) = .ok both ∧
      both.arguments = first.arguments ++ second.arguments ∧
      Bindings.OnTop first.bindings second.bindings both.bindings) ∧
    ∀ error, parse b = .error (.line error) →
      ∃ error', parse (a ++ gap ++ b) = .error (.line error') ∧ error'.reason = error.reason ∧
        error'.offset = error.offset + a.length + gap.length := by
  have apart : gap.toList ≠ [] := by simpa using apart
  cases read : Item.ofText a.toList with
  | error rejection => simp [parse_of_rejection read] at accepted
  | ok items =>
    obtain ⟨fit, rfl⟩ := (parse_eq_ok_iff read).1 accepted
    cases reads : Item.ofText b.toList with
    | error rejection =>
      have alone := parse_of_rejection reads
      refine ⟨fun second said => by simp [alone] at said, fun error failed => ?_⟩
      obtain rfl : rejection.toError b = error := by simpa [alone] using failed
      exact parse_append_of_rejection read blank apart reads
    | ok more =>
      have alone := parse_of_ofText reads
      have behind := parse_append_of_ofText read fit blank apart reads
      cases faults : (more.flatMap Item.literals).findSome? (Literal.failure? b) with
      | none =>
        rw [faults] at alone behind
        refine ⟨fun second said => ?_, fun error failed => by simp [alone, okUnless] at failed⟩
        obtain rfl : ofEntries (more.map Item.entry) = second := by
          simpa [alone, okUnless] using said
        exact ⟨_, behind, ofEntries_append _ _⟩
      | some failure =>
        rw [faults] at alone behind
        refine ⟨fun second said => by simp [alone, okUnless] at said, fun error failed => ?_⟩
        obtain rfl : failure = .line error := by simpa [alone, okUnless] using failed
        exact ⟨_, behind, rfl, by simp [Nat.add_assoc]⟩

theorem parse_append_rebound : ∃ first, parse "x:1 \"y\\\"\"" = .ok first ∧
    (∃ second both, parse "-f x:[..2] z" = .ok second ∧
      parse ("x:1 \"y\\\"\"" ++ " " ++ "-f x:[..2] z") = .ok both ∧
      both.arguments = first.arguments ++ second.arguments ∧
      Bindings.OnTop first.bindings second.bindings both.bindings) ∧
    ∃ error error', parse "z 99999999999999999999" = .error (.line error) ∧
      parse ("x:1 \"y\\\"\"" ++ " " ++ "z 99999999999999999999") = .error (.line error') ∧
      error'.reason = error.reason ∧ error'.offset = error.offset + 9 + 1 := by
  have accepted : (parse "x:1 \"y\\\"\"").isOk = true ∧ (parse "-f x:[..2] z").isOk = true := by
    decide +kernel
  have failed : ∃ error, parse "z 99999999999999999999" = .error (.line error) := by
    have blamed : (match parse "z 99999999999999999999" with
        | .error (.line _) => true
        | _ => false) = true := by
      decide +kernel
    split at blamed
    · next error told => exact ⟨error, told⟩
    · simp at blamed
  have blank : Blank " ".toList := Layout.blank_space
  cases said : parse "x:1 \"y\\\"\"" with
  | error failure => simp [said, Except.isOk, Except.toBool] at accepted
  | ok first =>
    refine ⟨first, rfl, ?_, ?_⟩
    · cases said' : parse "-f x:[..2] z" with
      | error failure => simp [said', Except.isOk, Except.toBool] at accepted
      | ok second =>
        obtain ⟨both, read, arguments, bindings⟩ :=
          (parse_append said blank (by decide)).1 second said'
        exact ⟨second, both, rfl, read, arguments, bindings⟩
    · obtain ⟨error, told⟩ := failed
      obtain ⟨error', told', reason, offset⟩ :=
        (parse_append said blank (by decide)).2 error told
      exact ⟨error, error', told, told', reason, offset⟩

end Command

end CommandLine
