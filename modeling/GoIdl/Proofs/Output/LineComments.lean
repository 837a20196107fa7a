import GoIdl.Proofs.Output.Blocks
import Mathlib.Data.List.Forall2

/-!
# Line comments

No line of a text leaves the comment it is laid out in, and the comment has everything that is visible
in the text, in order. Only words that no line could hold make a line too wide.
-/

namespace GoIdl.Output.CommentText

/-- How a paragraph stands in a line comment. -/
structure LaidOut (paragraph laid : List (List Char)) : Prop where
  visible : Text.visible (laid.flatMap (·.drop 2)) = Text.visible paragraph.flatten
  /-- A paragraph that is not kept as it is fits into the columns, words without blanks apart. -/
  width : (∀ line ∈ paragraph, isIndented line = true) ∨ ∀ line ∈ laid, line.length ≤ 83 ∨
    ∃ word, line = ['/', '/', ' '] ++ word ∧ ∀ c ∈ word, Text.isAsciiBlank c = false

theorem laidOut_filled (paragraph : List (List Char)) :
    LaidOut paragraph ((filled 80 paragraph).map (['/', '/', ' '] ++ ·)) := by
  refine ⟨?_, or_iff_not_imp_left.mpr fun mixed line member => ?_⟩
  · rw [← visible_filled 80 paragraph, List.flatMap_map, Text.visible_flatten, Text.visible_flatMap]
    exact List.flatMap_congr fun line _ => Text.visible_cons ' ' line
  · obtain ⟨word, listed, rfl⟩ := List.mem_map.mp member
    rw [filled_of_not_indented mixed] at listed
    rcases Text.fill_width listed with fits | solid
    · refine .inl ?_
      rw [List.length_append]
      simpa using Nat.add_le_add_left fits 3
    · exact .inr ⟨word, rfl, solid⟩

theorem text_lines (t : List Char) : Text.lines (text t) =
    (((paragraphs t).map fun paragraph => (filled 80 paragraph).map (['/', '/', ' '] ++ ·)).intersperse
      [['/', '/']]).flatten :=
  lines_layout (by simp [Text.isLineEnd]) 80 t

theorem slashes_prefix_of_mem_text {t line : List Char} (member : line ∈ Text.lines (text t)) :
    ['/', '/'] <+: line := by
  rw [text_lines] at member
  obtain ⟨laid, listed, inside⟩ := List.mem_flatten.mp member
  rcases Text.mem_of_mem_intersperse listed with rfl | listed
  · exact List.mem_singleton.mp inside ▸ List.prefix_rfl
  · obtain ⟨paragraph, -, rfl⟩ := List.mem_map.mp listed
    obtain ⟨word, -, rfl⟩ := List.mem_map.mp inside
    exact ⟨' ' :: word, rfl⟩

theorem visible_text (t : List Char) :
    Text.visible ((Text.lines (text t)).flatMap (·.drop 2)) = Text.visible t := by
  rw [text_lines, Text.visible_flatMap]
  refine (flatMap_intersperse rfl _).trans ?_
  rw [List.flatMap_map]
  calc (paragraphs t).flatMap _
      = (paragraphs t).flatMap fun paragraph => Text.visible paragraph.flatten :=
        List.flatMap_congr fun paragraph _ => by
          rw [← (laidOut_filled paragraph).visible, Text.visible_flatMap]
    _ = Text.visible t := by
      rw [← Text.visible_flatMap, ← visible_paragraphs t, List.flatten_flatten, List.flatMap_def]

/-- A text in a line comment: every line is a comment, what is visible of the text stands in it in
order, and each paragraph is laid out within the columns. -/
theorem text_confined (t : List Char) :
    (∀ line ∈ Text.lines (text t), ['/', '/'] <+: line) ∧
      Text.visible ((Text.lines (text t)).flatMap (·.drop 2)) = Text.visible t ∧
      ∃ laid, List.Forall₂ LaidOut (paragraphs t) laid ∧
        Text.lines (text t) = (laid.intersperse [['/', '/']]).flatten := by
  refine ⟨fun line => slashes_prefix_of_mem_text, visible_text t, _, ?_, text_lines t⟩
  rw [List.forall₂_map_right_iff, List.forall₂_same]
  exact fun paragraph _ => laidOut_filled paragraph

end GoIdl.Output.CommentText
