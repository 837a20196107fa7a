import GoIdl.Output.CommentText
import GoIdl.Proofs.Text.Filling

/-!
# The blocks of a comment

The blocks of a text are its paragraphs, the runs of lines between blank lines, with the blanks at the
ends of lines removed. The lines of a block at any width have the visible text of the block, and
none of them breaks.
-/

namespace GoIdl.Output.CommentText

variable {t line : List Char} {paragraph : List (List Char)} {c : Char}

def runs (lines : List (List Char)) : List (List (List Char)) :=
  (lines.splitOnP Text.isBlankText).filter (!·.isEmpty)

/-- The lines between blank lines, run by run. -/
def paragraphs (text : List Char) : List (List (List Char)) := runs (Text.lines text)

/-! ### Runs of lines -/

theorem flatten_splitOnP {α : Type} (separates : α → Bool) (items : List α) :
    (items.splitOnP separates).flatten = items.filter (!separates ·) := by
  induction items with
  | nil => rfl
  | cons item items ih =>
    rw [List.splitOnP_cons_eq_if_modifyHead, List.filter_cons, ← ih]
    cases separates item with
    | true => rfl
    | false =>
      cases pieces : items.splitOnP separates with
      | nil => exact absurd pieces (List.splitOnP_ne_nil _ _)
      | cons piece more => rfl

theorem flatten_runs (lines : List (List Char)) :
    (runs lines).flatten = lines.filter (!Text.isBlankText ·) := by
  rw [runs, List.flatten_filter_not_isEmpty, flatten_splitOnP]

theorem mem_of_mem_paragraphs (member : paragraph ∈ paragraphs t) (inside : line ∈ paragraph) :
    line ∈ Text.lines t ∧ Text.isBlankText line = false := by
  have listed : line ∈ (paragraphs t).flatten := List.mem_flatten.mpr ⟨paragraph, member, inside⟩
  rw [paragraphs, flatten_runs, List.mem_filter] at listed
  simpa using listed

theorem ne_nil_of_mem_paragraphs (member : paragraph ∈ paragraphs t) : paragraph ≠ [] := by
  have filled := (List.mem_filter.mp member).2
  rintro rfl
  cases filled

@[simp] theorem visible_paragraphs (t : List Char) :
    Text.visible (paragraphs t).flatten.flatten = Text.visible t := by
  rw [paragraphs, flatten_runs, Text.visible_filter, Text.visible_flatten_lines]

/-! ### Blocks are paragraphs -/

theorem blocksFrom_eq (gathered lines : List (List Char)) :
    blocksFrom (gathered.map Text.trimEnd) lines =
      (((lines.splitOnP Text.isBlankText).modifyHead (gathered ++ ·)).filter (!·.isEmpty)).map
        fun lines => blockOf (lines.map Text.trimEnd) := by
  induction lines generalizing gathered with
  | nil =>
    rw [blocksFrom, List.splitOnP_nil]
    cases gathered <;> simp
  | cons line lines ih =>
    rw [blocksFrom, List.splitOnP_cons_eq_if_modifyHead]
    cases blank : Text.isBlankText line with
    | true =>
      have rest := ih []
      cases pieces : lines.splitOnP Text.isBlankText with
      | nil => exact absurd pieces (List.splitOnP_ne_nil _ _)
      | cons piece more =>
        rw [pieces] at rest
        cases gathered <;> simp_all
    | false =>
      have rest := ih (gathered ++ [line])
      rw [List.map_append, List.map_singleton] at rest
      rw [if_neg nofun, if_neg nofun, rest, List.modifyHead_modifyHead]
      simp only [Function.comp_def, List.append_assoc, List.singleton_append]

theorem paragraphs_append_breaks (t : List Char) {breaks : List Char}
    (only : ∀ c ∈ breaks, isBreak c = true) : paragraphs (t ++ breaks) = paragraphs t := by
  induction breaks generalizing t with
  | nil => rw [List.append_nil]
  | cons c breaks ih =>
    cases eq_of_beq (only c List.mem_cons_self)
    have closed : paragraphs (t ++ ['\n']) = paragraphs t := by
      rcases Text.lines_joined t [] with same | more
      · rw [paragraphs, same, Text.lines, List.append_nil]
        rfl
      · have blank : Text.isBlankText [] = true := rfl
        rw [paragraphs, more, Text.lines, runs, List.splitOnP_append_cons _ _ blank, List.filter_append]
        exact List.append_nil _
    rw [← List.singleton_append, ← List.append_assoc,
      ih (t ++ ['\n']) fun d inside => only d (List.mem_cons_of_mem _ inside), closed]

theorem paragraphs_dropWhile (t : List Char) : paragraphs (t.dropWhile isBreak) = paragraphs t := by
  induction t with
  | nil => rfl
  | cons c t ih =>
    cases feed : isBreak c with
    | false => rw [List.dropWhile_cons_of_neg (by simp [feed])]
    | true =>
      cases eq_of_beq feed
      have blank : Text.isBlankText [] = true := rfl
      rw [List.dropWhile_cons_of_pos feed, ih, paragraphs, paragraphs, Text.lines_break, runs, runs,
        List.splitOnP_cons_eq_if_modifyHead, if_pos blank]
      rfl

theorem paragraphs_within_breaks (t : List Char) :
    paragraphs (Text.dropEndWhile isBreak (t.dropWhile isBreak)) = paragraphs t := by
  obtain ⟨dropped, whole, only⟩ := Text.exists_dropEndWhile_append isBreak (t.dropWhile isBreak)
  rw [← paragraphs_dropWhile t, ← paragraphs_append_breaks _ only, whole]

/-- Trimming the end of a line that is not blank leaves its indentation. -/
theorem isIndented_trimEnd (some : Text.isBlankText line = false) :
    isIndented (Text.trimEnd line) = isIndented line := by
  have kept : Text.trimEnd line ≠ [] := by
    intro none
    have seen := Text.visible_trimEnd line
    rw [none, Text.visible_nil] at seen
    have blank : Text.isBlankText line = true :=
      List.all_eq_true.mpr (Text.visible_eq_nil_iff.mp seen.symm)
    exact absurd (some.symm.trans blank) nofun
  obtain ⟨dropped, whole⟩ := Text.prefix_dropEndWhile Text.isBlank line
  cases trimmed : Text.trimEnd line with
  | nil => exact absurd trimmed kept
  | cons c rest =>
    rw [Text.trimEnd] at trimmed
    rw [← whole, trimmed]
    rfl

theorem blocks_eq (t : List Char) : blocks t =
    (paragraphs t).map fun lines => ⟨lines.all isIndented, lines.map Text.trimEnd⟩ := by
  rw [blocks, ← paragraphs_within_breaks t, paragraphs]
  generalize inner : Text.dropEndWhile isBreak (t.dropWhile isBreak) = s
  have gathered := blocksFrom_eq [] (Text.lines s)
  rw [List.map_nil] at gathered
  rw [gathered]
  have start : (Text.lines s).splitOnP Text.isBlankText =
      ((Text.lines s).splitOnP Text.isBlankText).modifyHead ([] ++ ·) := by
    cases pieces : (Text.lines s).splitOnP Text.isBlankText <;> rfl
  rw [← start]
  refine List.map_congr_left fun paragraph member => ?_
  have same : (paragraph.map Text.trimEnd).all isIndented = paragraph.all isIndented := by
    rw [List.all_map]
    refine Bool.eq_iff_iff.mpr ?_
    simp only [List.all_eq_true, Function.comp_apply]
    exact forall₂_congr fun line inside =>
      Bool.eq_iff_iff.mp (isIndented_trimEnd (mem_of_mem_paragraphs member inside).2)
  rw [blockOf, same]

/-! ### The lines of a block -/

variable {start : List Char} {width : Nat}

/-- The lines of a paragraph at a width. -/
def filled (width : Nat) (paragraph : List (List Char)) : List (List Char) :=
  Block.filled width ⟨paragraph.all isIndented, paragraph.map Text.trimEnd⟩

theorem filled_of_not_indented (mixed : ¬∀ line ∈ paragraph, isIndented line = true) :
    filled width paragraph =
      Text.fill width (Text.joinWith [' '] ((paragraph.map Text.trimEnd).map Text.trim)) := by
  rw [filled, Block.filled, if_neg]
  simpa using mixed

theorem visible_filled (width : Nat) (paragraph : List (List Char)) :
    Text.visible (filled width paragraph).flatten = Text.visible paragraph.flatten := by
  rw [filled, Block.filled]
  split
  · rw [Text.visible_dedent, Text.visible_map Text.visible_trimEnd]
  · rw [Text.visible_fill, Text.visible_joinWith rfl, Text.visible_map Text.visible_trim,
      Text.visible_map Text.visible_trimEnd]

theorem not_isLineEnd_of_mem_filled (member : paragraph ∈ paragraphs t)
    (listed : line ∈ filled width paragraph) : ∀ c ∈ line, Text.isLineEnd c = false := by
  have ordinary : ∀ piece ∈ paragraph, ∀ c ∈ Text.trimEnd piece, Text.isLineEnd c = false :=
    fun piece inside c found =>
      Text.not_isLineEnd_of_mem_lines (mem_of_mem_paragraphs member inside).1 c
        ((Text.prefix_dropEndWhile ..).subset found)
  intro c inside
  rw [filled, Block.filled] at listed
  split at listed
  · obtain ⟨piece, trimmed, rfl⟩ := List.mem_map.mp listed
    obtain ⟨whole, found, rfl⟩ := List.mem_map.mp trimmed
    exact ordinary whole found c (List.mem_of_mem_drop inside)
  · rcases Text.mem_fill listed inside with rfl | joined
    · decide
    rcases Text.mem_joinWith joined with separator | ⟨piece, trimmed, found⟩
    · cases List.mem_singleton.mp separator
      decide
    · obtain ⟨shorter, trimmedEnd, rfl⟩ := List.mem_map.mp trimmed
      obtain ⟨whole, inside, rfl⟩ := List.mem_map.mp trimmedEnd
      exact ordinary whole inside c ((Text.trim_sublist _).subset found)

/-- The lines of a laid out text: those of its paragraphs, one line between two paragraphs. -/
theorem lines_layout (ordinary : ∀ c ∈ start, Text.isLineEnd c = false) (width : Nat) (t : List Char) :
    Text.lines (layout start width t) =
      (((paragraphs t).map fun paragraph => (filled width paragraph).map (start ++ ·)).intersperse
        [Text.trimEnd start]).flatten := by
  have laid : ((blocks t).map fun b => (b.filled width).map (start ++ ·)) =
      (paragraphs t).map fun paragraph => (filled width paragraph).map (start ++ ·) := by
    rw [blocks_eq, List.map_map]
    rfl
  rw [layout, laid]
  refine Text.lines_flatMap_break fun piece member => ?_
  obtain ⟨block, listed, inside⟩ := List.mem_flatten.mp member
  rcases Text.mem_of_mem_intersperse listed with rfl | listed
  · cases List.mem_singleton.mp inside
    exact fun c found => ordinary c ((Text.prefix_dropEndWhile ..).subset found)
  · obtain ⟨paragraph, found, rfl⟩ := List.mem_map.mp listed
    obtain ⟨line, listed, rfl⟩ := List.mem_map.mp inside
    exact fun c inside => (List.mem_append.mp inside).elim (ordinary c)
      (not_isLineEnd_of_mem_filled found listed c)

/-- The lines between paragraphs have no part in what they do not show. -/
theorem flatMap_intersperse {α : Type} {shown : List Char → List α} {between : List Char}
    (hidden : shown between = []) (laid : List (List (List Char))) :
    (laid.intersperse [between]).flatten.flatMap shown = laid.flatMap (·.flatMap shown) := by
  induction laid with
  | nil => rfl
  | cons lines laid ih =>
    cases laid with
    | nil => simp
    | cons next laid =>
      rw [List.intersperse_cons_cons, List.flatten_cons, List.flatten_cons, List.flatMap_append,
        List.flatMap_append, ih, List.flatMap_singleton, hidden, List.nil_append,
        List.flatMap_cons (x := lines)]

end GoIdl.Output.CommentText
