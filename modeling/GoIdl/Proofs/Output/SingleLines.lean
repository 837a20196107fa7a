import GoIdl.Proofs.Output.Blocks
import Mathlib.Algebra.GroupWithZero.Nat
import Mathlib.Data.List.Forall2

/-!
# Comments of a line for each paragraph

A paragraph that is kept as it is has its own lines. Any other one is filled at a width of 2000, and so
it has one line exactly if it fits into the width or is a single word; a longer one has more.
-/

namespace GoIdl

/-! ### Lines that are not blank -/

namespace Text

variable {s line : List Char} {pieces : List (List Char)} {c : Char}

/-- A line without the blanks around it, unless nothing is left. -/
def shown (line : List Char) : List (List Char) := if isBlankText line then [] else [trim line]

/-- The lines that are not blank, without the blanks around them. -/
def printed (lines : List (List Char)) : List (List Char) :=
  (lines.filter (!isBlankText ·)).map trim

theorem printed_eq (lines : List (List Char)) : printed lines = lines.flatMap shown := by
  induction lines with
  | nil => rfl
  | cons line lines ih =>
    rw [List.flatMap_cons, ← ih, printed, printed, shown, List.filter_cons]
    cases isBlankText line <;> rfl

theorem printed_cons (line : List Char) (pieces : List (List Char)) :
    printed (line :: pieces) = shown line ++ printed pieces := by
  rw [printed_eq, printed_eq, List.flatMap_cons]

theorem isBlankText_eq (line : List Char) : isBlankText line = (trim line).isEmpty := by
  cases blank : isBlankText line with
  | true =>
    have none : trimStart line = [] := List.dropWhile_eq_nil_iff.mpr (List.all_eq_true.mp blank)
    rw [trim, none]
    rfl
  | false =>
    refine (List.isEmpty_eq_false_iff.mpr fun none => ?_).symm
    have seen := visible_trim line
    rw [none] at seen
    have blank' : isBlankText line = true := List.all_eq_true.mpr (visible_eq_nil_iff.mp seen.symm)
    exact absurd (blank.symm.trans blank') Bool.false_ne_true

theorem shown_congr {other : List Char} (same : trim line = trim other) : shown line = shown other := by
  rw [shown, shown, isBlankText_eq, isBlankText_eq, same]

theorem shown_append_left (line : List Char) {start : List Char} (blanks : ∀ c ∈ start, isBlank c = true) :
    shown (start ++ line) = shown line :=
  shown_congr (by rw [trim, trimStart, List.dropWhile_append_of_pos blanks]; rfl)

theorem shown_append_blank (line : List Char) (blank : isBlank c = true) :
    shown (line ++ [c]) = shown line := by
  have same : trimEnd (line ++ [c]) = trimEnd line :=
    dropEndWhile_append line fun d member => List.mem_singleton.mp member ▸ blank
  exact shown_congr (by rw [← trim_trimEnd (line ++ [c]), same, trim_trimEnd])

theorem shown_cons_blank (blank : isBlank c = true) (line : List Char) : shown (c :: line) = shown line :=
  shown_append_left line fun _ member => List.mem_singleton.mp member ▸ blank

theorem printed_map {change : List Char → List Char} (same : ∀ line, shown (change line) = shown line)
    (lines : List (List Char)) : printed (lines.map change) = printed lines := by
  rw [printed_eq, printed_eq, List.flatMap_map]
  exact List.flatMap_congr fun line _ => same line

theorem printed_dedent (lines : List (List Char)) : printed (dedent lines) = printed lines := by
  cases lines with
  | nil => rfl
  | cons line lines =>
    have common := margin_common (List.cons_ne_nil line lines)
    conv_rhs => rw [← map_append_dedent (line :: lines)]
    exact (printed_map (fun other => shown_append_left other fun c inside =>
      isBlank_of_isIndent (common.indent c inside)) _).symm

theorem visible_printed (lines : List (List Char)) :
    visible (printed lines).flatten = visible lines.flatten := by
  rw [printed, visible_map visible_trim, visible_filter]

theorem foldr_consHead (start line : List Char) (pieces : List (List Char)) :
    start.foldr consHead (line :: pieces) = (start ++ line) :: pieces := by
  induction start with
  | nil => rfl
  | cons c start ih => rw [List.foldr_cons, ih]; rfl

theorem printed_lines_cons (blank : isBlank c = true) (s : List Char) :
    printed (lines (c :: s)) = printed (lines s) := by
  by_cases pair : c = '\r' ∧ ∃ rest, s = '\n' :: rest
  · obtain ⟨rfl, rest, rfl⟩ := pair
    rw [lines, lines_break]
  rw [lines_single fun rest carriage feed => pair ⟨carriage, rest, feed⟩]
  split
  · rw [printed_cons]
    rfl
  · cases lines s with
    | nil => rw [consHead, printed_cons, shown_cons_blank blank]; rfl
    | cons line pieces => rw [consHead, printed_cons, printed_cons, shown_cons_blank blank]

theorem printed_start (start : List Char) : printed (start.foldr consHead []) = shown start := by
  rcases List.eq_nil_or_concat start with rfl | ⟨before, d, rfl⟩
  · rfl
  · rw [List.concat_eq_append, List.foldr_append, List.foldr_cons, List.foldr_nil, consHead, foldr_consHead,
      printed_cons]
    exact List.append_nil _

/-- A blank behind a text is not printed; `start` is what stands before the text on its first line. -/
theorem printed_lines_snoc (start s : List Char) (blank : isBlank c = true) :
    printed (start.foldr consHead (lines (s ++ [c]))) = printed (start.foldr consHead (lines s)) := by
  induction s using lines.induct generalizing start with
  | case1 =>
    rw [List.nil_append, lines_single (by simp), lines, printed_start]
    split
    · rw [foldr_consHead, printed_cons, List.append_nil]
      exact List.append_nil _
    · rw [consHead, foldr_consHead, printed_cons, shown_append_blank start blank]
      exact List.append_nil _
  | case2 rest ih =>
    rw [List.cons_append, List.cons_append, lines, lines, foldr_consHead, foldr_consHead, printed_cons,
      printed_cons]
    exact congrArg _ (ih [])
  | case3 d rest pair lineEnd ih =>
    by_cases joins : d = '\r' ∧ rest = [] ∧ c = '\n'
    · obtain ⟨rfl, rfl, rfl⟩ := joins
      rfl
    · have alone : ∀ more, d = '\r' → rest ++ [c] ≠ '\n' :: more := by
        rintro more rfl same
        cases rest with
        | nil => exact joins ⟨rfl, rfl, (List.cons.inj same).1⟩
        | cons e rest => exact pair rest rfl (by rw [(List.cons.inj same).1])
      rw [List.cons_append, lines_single alone, lines_single pair, if_pos lineEnd,
        if_pos lineEnd, foldr_consHead, foldr_consHead, printed_cons, printed_cons]
      exact congrArg _ (ih [])
  | case4 d rest pair ordinary ih =>
    have split : ∀ s, start.foldr consHead (lines (d :: s)) = (start ++ [d]).foldr consHead (lines s) := by
      intro s
      rw [lines_ordinary (Bool.of_not_eq_true ordinary), List.foldr_append]
      rfl
    rw [List.cons_append, split, split]
    exact ih _

/-- Blanks around a text have no part in what is printed of its lines. -/
theorem printed_lines_trim (s : List Char) : printed (lines (trim s)) = printed (lines s) := by
  have behind : ∀ (s : List Char) {dropped : List Char}, (∀ c ∈ dropped, isBlank c = true) →
      printed (lines (s ++ dropped)) = printed (lines s) := by
    intro s dropped
    induction dropped generalizing s with
    | nil => exact fun _ => by rw [List.append_nil]
    | cons c dropped ih =>
      intro blanks
      obtain ⟨here, later⟩ := List.forall_mem_cons.mp blanks
      rw [← List.singleton_append, ← List.append_assoc, ih (s ++ [c]) later]
      exact printed_lines_snoc [] s here
  have before : ∀ s : List Char, printed (lines (trimStart s)) = printed (lines s) := by
    intro s
    induction s with
    | nil => rfl
    | cons c s ih =>
      cases blank : isBlank c with
      | true => rw [printed_lines_cons blank, ← ih, trimStart, List.dropWhile_cons_of_pos blank]; rfl
      | false => rw [trimStart, List.dropWhile_cons_of_neg (by simp [blank])]
  obtain ⟨dropped, whole, blanks⟩ := exists_dropEndWhile_append isBlank (trimStart s)
  rw [← before s, ← whole, behind _ blanks]
  rfl

end Text

namespace Output.CommentText

variable {t : List Char} {paragraph : List (List Char)}

/-- A paragraph on one line, with its tabs as blanks. -/
def joined (paragraph : List (List Char)) : List Char :=
  Text.expandTabs 0 (Text.joinWith [' '] (paragraph.map Text.trim))

/-- Whether one line can hold a paragraph: it fits into the width, or there is no place to cut it. -/
def FitsLine (paragraph : List (List Char)) : Prop :=
  (joined paragraph).length ≤ 2000 ∨ ∀ c ∈ joined paragraph, Text.isAsciiBlank c = false

/-- What a paragraph has of the lines. -/
structure Share (paragraph own : List (List Char)) : Prop where
  visible : Text.visible own.flatten = Text.visible paragraph.flatten
  kept : (∀ line ∈ paragraph, isIndented line = true) → own = paragraph.map Text.trim
  filled : (¬∀ line ∈ paragraph, isIndented line = true) →
    1 ≤ own.length ∧ (own.length = 1 ↔ FitsLine paragraph)

theorem share_filled (member : paragraph ∈ paragraphs t) :
    Share paragraph (Text.printed (filled 2000 paragraph)) where
  visible := by rw [Text.visible_printed, visible_filled]
  kept indented := by
    have all : paragraph.all isIndented = true := List.all_eq_true.mpr indented
    rw [filled, Block.filled, if_pos all, Text.printed_dedent,
      Text.printed_map fun line => Text.shown_congr (Text.trim_trimEnd line), Text.printed,
      List.filter_eq_self.mpr fun line inside => by simp [(mem_of_mem_paragraphs member inside).2]]
  filled mixed := by
    have tight : Text.Tight (Text.joinWith [' '] (paragraph.map Text.trim)) := by
      refine .joinWith (by simpa using ne_nil_of_mem_paragraphs member) fun piece listed => ?_
      obtain ⟨line, inside, rfl⟩ := List.mem_map.mp listed
      exact .trim (mem_of_mem_paragraphs member inside).2
    have trimmed : (paragraph.map Text.trimEnd).map Text.trim = paragraph.map Text.trim := by
      rw [List.map_map]
      exact List.map_congr_left fun line _ => Text.trim_trimEnd line
    obtain ⟨line, more, lines, single⟩ := Text.fill_tight tight 2000
    rw [filled_of_not_indented mixed, trimmed, Text.printed, lines, List.length_map, List.length_cons,
      FitsLine, joined, ← single]
    exact ⟨Nat.le_add_left 1 _, by simp⟩

/-- The lines of the result are those of the paragraphs, one after another. -/
theorem printed_line (t : List Char) : Text.printed (Text.lines (line t)) =
    (paragraphs t).flatMap fun paragraph => Text.printed (filled 2000 paragraph) := by
  have same : Text.lines (layout [] 2000 t) =
      (((paragraphs t).map (filled 2000)).intersperse [[]]).flatten := by
    rw [lines_layout fun _ none => absurd none List.not_mem_nil]
    simp only [List.nil_append, List.map_id']
    rfl
  rw [line, Text.printed_lines_trim, same, Text.printed_eq, flatMap_intersperse rfl, List.flatMap_map]
  exact List.flatMap_congr fun paragraph _ => (Text.printed_eq _).symm

theorem visible_line (t : List Char) : Text.visible (line t) = Text.visible t := by
  calc Text.visible (line t)
      = Text.visible (Text.printed (Text.lines (line t))).flatten := by
        rw [Text.visible_printed, Text.visible_flatten_lines]
    _ = (paragraphs t).flatMap fun paragraph => Text.visible paragraph.flatten := by
        rw [printed_line, Text.visible_flatten, List.flatMap_assoc]
        refine List.flatMap_congr fun paragraph member => ?_
        rw [← (share_filled member).visible, Text.visible_flatten]
    _ = Text.visible t := by
        rw [← Text.visible_flatMap, ← visible_paragraphs t, List.flatten_flatten, List.flatMap_def]

/-- The lines that a paragraph has by itself: its own if they are all indented, else a single one. -/
def ownLines (paragraph : List (List Char)) : Nat :=
  if paragraph.all isIndented then paragraph.length else 1

/-- No paragraph has less lines, and those that one line can hold have no more. -/
theorem Share.length {own : List (List Char)} (share : Share paragraph own) :
    ownLines paragraph ≤ own.length ∧ (own.length = ownLines paragraph ↔
      (∀ line ∈ paragraph, isIndented line = true) ∨ FitsLine paragraph) := by
  by_cases indented : ∀ line ∈ paragraph, isIndented line = true
  · rw [ownLines, if_pos (List.all_eq_true.mpr indented), share.kept indented, List.length_map]
    exact ⟨Nat.le_refl _, iff_of_true rfl (.inl indented)⟩
  · rw [ownLines, if_neg (by simpa using indented), or_iff_right indented]
    exact share.filled indented

theorem sum_le_length {α β : Type} {items : List α} {own : α → List β} {least : α → Nat} {Least : α → Prop}
    (each : ∀ item ∈ items, least item ≤ (own item).length ∧ ((own item).length = least item ↔ Least item)) :
    (items.map least).sum ≤ (items.flatMap own).length ∧
      ((items.flatMap own).length = (items.map least).sum ↔ ∀ item ∈ items, Least item) := by
  induction items with
  | nil => simp
  | cons item items ih =>
    obtain ⟨⟨here, only⟩, others⟩ := List.forall_mem_cons.mp each
    obtain ⟨more, all⟩ := ih others
    rw [List.map_cons, List.sum_cons, List.flatMap_cons, List.length_append, List.forall_mem_cons, ← only,
      ← all]
    omega

theorem length_printed_line (t : List Char) :
    ((paragraphs t).map ownLines).sum ≤ ((Text.lines (line t)).filter (!Text.isBlankText ·)).length ∧
      (((Text.lines (line t)).filter (!Text.isBlankText ·)).length = ((paragraphs t).map ownLines).sum ↔
        ∀ paragraph ∈ paragraphs t, (∀ line ∈ paragraph, isIndented line = true) ∨ FitsLine paragraph) := by
  have count : ((Text.lines (line t)).filter (!Text.isBlankText ·)).length =
      (Text.printed (Text.lines (line t))).length := (List.length_map ..).symm
  rw [count, printed_line]
  exact sum_le_length fun paragraph member => (share_filled member).length

/-- A comment of a line for each paragraph: it has what is visible of the text, in order, and every
paragraph has its share of the lines that are not blank. These are as many as the paragraphs have by
themselves, or more; they are as many exactly if one line can hold each paragraph that is filled. -/
theorem line_shares (t : List Char) :
    Text.visible (line t) = Text.visible t ∧
      (∃ shares, List.Forall₂ Share (paragraphs t) shares ∧
        ((Text.lines (line t)).filter (!Text.isBlankText ·)).map Text.trim = shares.flatten) ∧
      ((paragraphs t).map ownLines).sum ≤ ((Text.lines (line t)).filter (!Text.isBlankText ·)).length ∧
      (((Text.lines (line t)).filter (!Text.isBlankText ·)).length = ((paragraphs t).map ownLines).sum ↔
        ∀ paragraph ∈ paragraphs t, (∀ line ∈ paragraph, isIndented line = true) ∨ FitsLine paragraph) := by
  refine ⟨visible_line t, ⟨_, ?_, (printed_line t).trans (List.flatMap_def ..)⟩, length_printed_line t⟩
  rw [List.forall₂_map_right_iff, List.forall₂_same]
  exact fun paragraph => share_filled

/-- A word behind another one has a line of its own if both do not fit on one. -/
theorem length_ne_of_long {n : Nat} (long : 1998 ≤ n) :
    ((Text.lines (line ('a' :: ' ' :: List.replicate (n + 1) 'b'))).filter (!Text.isBlankText ·)).length ≠
      ((paragraphs ('a' :: ' ' :: List.replicate (n + 1) 'b')).map ownLines).sum := by
  generalize text : 'a' :: ' ' :: List.replicate (n + 1) 'b' = t
  have letters : ∀ c ∈ t, c = 'a' ∨ c = ' ' ∨ c = 'b' := by
    intro c member
    simpa [← text] using member
  have ordinary : ∀ c ∈ t, Text.isLineEnd c = false := by
    intro c member
    rcases letters c member with rfl | rfl | rfl <;> rfl
  have lone : paragraphs t = [[t]] := by
    rw [paragraphs, Text.lines_whole (by simp [← text]) ordinary, ← text]
    rfl
  have trimmed : Text.trim t = t := by
    have start : Text.trimStart t = t := by rw [← text]; rfl
    have closed : t = ('a' :: ' ' :: List.replicate n 'b') ++ ['b'] := by
      rw [← text, List.replicate_succ', List.cons_append, List.cons_append]
    rw [Text.trim, start, closed, Text.trimEnd, Text.dropEndWhile_eq_rdropWhile,
      List.rdropWhile_concat_neg _ _ _ (by decide)]
  have whole : joined [t] = t := by
    have joins : Text.joinWith [' '] ([t].map Text.trim) = t := by
      rw [List.map_singleton, trimmed]
      exact List.append_nil t
    rw [joined, joins, Text.expandTabs_of_not_mem]
    intro tab
    rcases letters _ tab with same | same | same <;> cases same
  intro single
  rcases (length_printed_line t).2.mp single [t] (lone ▸ List.mem_singleton_self _) with
    indented | fits | word
  · have first := indented t (List.mem_singleton_self t)
    rw [← text] at first
    cases first
  · rw [whole, ← text] at fits
    simp at fits
    omega
  · rw [whole] at word
    cases word ' ' (by simp [← text])

/-- A paragraph of 2001 characters stands on two lines. -/
theorem two_lines_of_long : ¬ ∀ t, ((Text.lines (line t)).filter (!Text.isBlankText ·)).length =
    ((paragraphs t).map ownLines).sum :=
  fun single => length_ne_of_long (n := 1998) (Nat.le_refl _) (single _)

end Output.CommentText

end GoIdl
