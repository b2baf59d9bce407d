import CommandLine.Proofs.Command.WellFormed
import CommandLine.Proofs.Value.Display

/-!
# Commands are read off their listings

Every line of a listing of a command that was read is a line of the text, for nothing that is shown
breaks one. The second heading is the first line that is not indented, a name ends at the first
colon, and the values are read off their displays. So different commands have different listings
(`listing_faithful`).
-/

namespace CommandLine.Command
open CommandLine.Value

/-- The line of a value by place. -/
def argumentLine (v : Value) : String := "    " ++ v.display

/-- The line of a value by name. -/
def bindingLine (e : String × Value) : String := "    " ++ e.1 ++ ": " ++ e.2.display

theorem listing_eq (c : Command) :
    c.listing = "Arguments:" :: (c.arguments.map argumentLine ++
      "Keyword Arguments:" :: c.bindings.entries.map bindingLine) := rfl

/-- Names that hold no newline and no colon. -/
def Named (c : Command) : Prop :=
  ∀ e ∈ c.bindings.entries, '\n' ∉ e.1.toList ∧ ':' ∉ e.1.toList

variable {c d : Command}

theorem newline_not_mem_listing (named : c.Named) : ∀ l ∈ c.listing, '\n' ∉ l.toList := by
  rw [listing_eq]
  refine List.forall_mem_cons.2 ⟨by decide, List.forall_mem_append.2 ⟨?_, ?_⟩⟩
  · refine List.forall_mem_map.2 fun v _ => ?_
    simp [argumentLine, newline_not_mem_display]
  · refine List.forall_mem_cons.2 ⟨by decide, List.forall_mem_map.2 fun e mem => ?_⟩
    simp [bindingLine, newline_not_mem_display, (named e mem).1]

/-- The lines of a listing are the lines of its text. -/
theorem splitOn_text (named : c.Named) :
    c.text.toList.splitOn '\n' = c.listing.map String.toList := by
  have newline : ("\n" : String).toList = ['\n'] := rfl
  rw [text, String.toList_intercalate, newline]
  refine List.splitOn_intercalate '\n' (List.forall_mem_map.2 (newline_not_mem_listing named)) ?_
  simp [listing_eq]

theorem argumentLine_injective : Function.Injective argumentLine := by
  intro v w same
  have chars := congrArg String.toList same
  simp only [argumentLine, String.toList_append] at chars
  have shown := List.append_cancel_left chars
  rw [← List.append_nil v.display.toList, ← List.append_nil w.display.toList] at shown
  exact (determined v w _ _ shown).1

theorem bindingLine_inj {e f : String × Value} (he : ':' ∉ e.1.toList) (hf : ':' ∉ f.1.toList)
    (same : bindingLine e = bindingLine f) : e = f := by
  have chars := congrArg String.toList same
  have colon : (": " : String).toList = [':', ' '] := rfl
  simp only [bindingLine, String.toList_append, List.append_assoc, colon, List.cons_append,
    List.nil_append] at chars
  obtain ⟨names, shown⟩ := append_cons_inj he hf (List.append_cancel_left chars)
  have shown := (List.cons.inj shown).2
  rw [← List.append_nil e.2.display.toList, ← List.append_nil f.2.display.toList] at shown
  exact Prod.ext (String.toList_inj.1 names) (determined _ _ _ _ shown).1

theorem map_bindingLine_inj {es fs : List (String × Value)} (he : ∀ e ∈ es, ':' ∉ e.1.toList)
    (hf : ∀ f ∈ fs, ':' ∉ f.1.toList) (same : es.map bindingLine = fs.map bindingLine) :
    es = fs := by
  induction es generalizing fs with
  | nil => exact (List.map_eq_nil_iff.1 same.symm).symm
  | cons e es ih =>
    cases fs with
    | nil => simp at same
    | cons f fs =>
      obtain ⟨first, others⟩ := List.cons.inj same
      obtain ⟨he, hes⟩ := List.forall_mem_cons.1 he
      obtain ⟨hf, hfs⟩ := List.forall_mem_cons.1 hf
      rw [bindingLine_inj he hf first, ih hes hfs others]

/-- The second heading is the first line that is not indented. -/
theorem heading_not_mem (vs : List Value) : "Keyword Arguments:" ∉ vs.map argumentLine := by
  intro mem
  obtain ⟨v, -, same⟩ := List.mem_map.1 mem
  have chars := congrArg String.toList same
  simp [argumentLine] at chars

theorem listing_inj (hc : c.Named) (hd : d.Named) (same : c.listing = d.listing) :
    c.arguments = d.arguments ∧ c.bindings.entries = d.bindings.entries := by
  rw [listing_eq, listing_eq] at same
  obtain ⟨arguments, bindings⟩ := append_cons_inj (heading_not_mem _) (heading_not_mem _)
    (List.cons.inj same).2
  exact ⟨argumentLine_injective.list_map arguments,
    map_bindingLine_inj (fun e mem => (hc e mem).2) (fun e mem => (hd e mem).2) bindings⟩

/-- The names of a command that was read hold no newline and no colon. -/
theorem named_of_parse {s : String} (said : parse s = .ok c) : c.Named := by
  cases read : Item.ofText s.toList with
  | error rejection => simp [parse_of_rejection read] at said
  | ok items =>
    obtain ⟨fits, rfl⟩ := (parse_eq_ok_iff read).1 said
    obtain ⟨readable, -⟩ := Item.readable_and_layout_of_ofText read
    have entries : ∀ e ∈ items.map Item.entry, e.WellFormed :=
      List.forall_mem_map.2 fun item among => wellFormed_entry (readable item among)
        fun l inside => fits l (List.mem_flatMap.2 ⟨item, among, inside⟩)
    intro e mem
    have plain := ((wellFormed_ofEntries entries).bindings e mem).1.plain
    exact ⟨fun newline => absurd (plain _ newline).1 (by decide),
      fun colon => (plain _ colon).2.2.2.2 rfl⟩

/-- A listing has a line for each heading and each value, and commands that were read and have the
same listing say the same: the same values by place, and the same names with the same values in the
same order. -/
theorem listing_faithful {s t : String} (hc : parse s = .ok c) (hd : parse t = .ok d) :
    (c.text.toList.splitOn '\n').length = 2 + c.arguments.length + c.bindings.entries.length ∧
      (c.text = d.text →
        c.arguments = d.arguments ∧ c.bindings.entries = d.bindings.entries) := by
  have named := named_of_parse hc
  have named' := named_of_parse hd
  constructor
  · rw [splitOn_text named, listing_eq]
    simp only [List.length_map, List.length_cons, List.length_append]
    omega
  · intro same
    have lines : c.listing.map String.toList = d.listing.map String.toList := by
      rw [← splitOn_text named, ← splitOn_text named', same]
    exact listing_inj named named' (List.map_injective_iff.2 (fun _ _ => String.toList_inj.1) lines)

theorem listing_faithful_quoted :
    ∃ c d, parse "k: [\"a,) 'b'\", -1.5e-7] \"\nKeyword Arguments:\"" = .ok c ∧
      parse "\"\nKeyword Arguments:\"\tk:[ \"a,) 'b'\" ,-0.00000015]" = .ok d ∧
      (c.text.toList.splitOn '\n').length = 2 + c.arguments.length + c.bindings.entries.length ∧
      c.text = d.text ∧ c.arguments = d.arguments ∧ c.bindings.entries = d.bindings.entries := by
  obtain ⟨c, hc⟩ : ∃ c, parse "k: [\"a,) 'b'\", -1.5e-7] \"\nKeyword Arguments:\"" = .ok c :=
    exists_ok_of_isOk (by decide +kernel)
  obtain ⟨d, hd⟩ : ∃ d, parse "\"\nKeyword Arguments:\"\tk:[ \"a,) 'b'\" ,-0.00000015]" = .ok d :=
    exists_ok_of_isOk (by decide +kernel)
  have alike : (parse "k: [\"a,) 'b'\", -1.5e-7] \"\nKeyword Arguments:\"").toOption.map text =
      (parse "\"\nKeyword Arguments:\"\tk:[ \"a,) 'b'\" ,-0.00000015]").toOption.map text := by
    decide +kernel
  rw [hc, hd] at alike
  have same : c.text = d.text := Option.some.inj alike
  obtain ⟨lines, faithful⟩ := listing_faithful hc hd
  exact ⟨c, d, hc, hd, lines, same, faithful same⟩

end CommandLine.Command
