import CommandLine.Command.Reader
import CommandLine.Proofs.Item.Tiling

/-!
# Tokens cover the line

Nothing of a line that is accepted is dropped, read twice or split in two (`Tree.covers_of_parse`).
-/

namespace CommandLine.Tree
open CommandLine.Text

/-- The tokens of a tree stand in a text one behind the other, and what is left of the text are
blanks and the marks that the lists of the tree are written with. -/
structure Covers (tree : Tree) (text : String) : Prop where
  attached : tree.Attached
  stands : ∀ token ∈ tree.tokens, token.Stands text
  ascending : tree.tokens.Pairwise fun k l => k.stop.offset ≤ l.start.offset
  left : ∀ x ∈ outside tree.tokens 0 text.toList, isBlank x.1 = true ∨ x.1 ∈ ['[', ']', ',']
  marked : Marked ((outside tree.tokens 0 text.toList).map Prod.fst) tree.lists
  closed : ∀ x ∈ outside tree.tokens 0 text.toList, x.1 = ']' →
    Terminal.endsValue (text.toList.drop (x.2 + 1)) = true

theorem Marked.of_filter {cs : List Char} {lists : List (List Tree)}
    (h : Marked (cs.filter (!isBlank ·)) lists) : Marked cs lists := by
  obtain ⟨opened, closed, parted⟩ := h
  rw [List.count_filter (by decide)] at opened closed parted
  exact ⟨opened, closed, parted⟩

/-- The tokens of a line that is accepted cover it. -/
theorem covers_of_parse {text : String} {tree : Tree} (accepted : parse text = .ok tree) :
    tree.Covers text := by
  obtain ⟨items, read, rfl⟩ := parse_eq_ok_iff.1 accepted
  obtain ⟨readable, -⟩ := Item.readable_and_layout_of_ofText read
  have tiling := Item.tiling_of_ofText read
  have visible := tiling.filter_outside
  have marked := marked_ofItems readable
  rw [← visible] at marked
  refine ⟨attached_ofItems items, tiling.stands rfl, tiling.ascending, fun x member => ?_,
    marked.of_filter, tiling.endsValue_of_closeBracket⟩
  cases blank : isBlank x.1 with
  | true => exact .inl rfl
  | false =>
    have among : x.1 ∈ Lexeme.marks (items.flatMap Item.lexemes) := by
      rw [← visible]
      exact List.mem_filter.2 ⟨List.mem_map.2 ⟨x, member, rfl⟩, by simp [blank]⟩
    obtain ⟨l, -, mark⟩ := List.mem_filterMap.1 among
    exact .inr (Terminal.mem_of_mark mark)

theorem covers_of_parse_lines :
    ∃ tree, parse "a:\"\n]\" [1,[x]]\n -f\t2..3" = .ok tree ∧
      tree.Covers "a:\"\n]\" [1,[x]]\n -f\t2..3" := by
  obtain ⟨tree, accepted⟩ : ∃ tree, parse "a:\"\n]\" [1,[x]]\n -f\t2..3" = .ok tree :=
    exists_ok_of_isOk (by decide +kernel)
  exact ⟨tree, accepted, covers_of_parse accepted⟩

end CommandLine.Tree
