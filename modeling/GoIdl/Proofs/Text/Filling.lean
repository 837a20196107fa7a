import GoIdl.Text.Paragraph
import GoIdl.Proofs.Text.Lines
import Mathlib.Data.List.Flatten

/-!
# Filled paragraphs

Filling a paragraph moves and drops blanks and nothing else. A line of it fits into the width, unless
it is a word that no line could hold. Removing the common indentation of lines drops blanks only, too.
-/

namespace GoIdl.Text

variable {s line margin₁ margin₂ : List Char} {pieces : List (List Char)} {width : Nat}

/-! ### Tabs -/

@[simp] theorem visible_expandTabs (column : Nat) (s : List Char) :
    visible (expandTabs column s) = visible s := by
  induction s generalizing column with
  | nil => rfl
  | cons c s ih =>
    rw [expandTabs]
    split
    · rename_i tab
      have blanks : visible (List.replicate (8 - column % 8) ' ') = [] :=
        visible_eq_nil_iff.mpr fun d member => List.eq_of_mem_replicate member ▸ rfl
      rw [visible_append, blanks, ih, tab]
      rfl
    · split <;> rw [visible_cons, visible_cons, ih]

theorem mem_expandTabs {column : Nat} {c : Char} (member : c ∈ expandTabs column s) :
    c = ' ' ∨ c ∈ s := by
  induction s generalizing column with
  | nil => cases member
  | cons d s ih =>
    have later : ∀ {column}, c ∈ expandTabs column s → c = ' ' ∨ c ∈ d :: s := fun inside =>
      (ih inside).imp_right (List.mem_cons_of_mem _)
    have here : ∀ {column}, c ∈ d :: expandTabs column s → c = ' ' ∨ c ∈ d :: s := fun inside =>
      (List.mem_cons.mp inside).elim (fun same => .inr (same ▸ List.mem_cons_self)) later
    rw [expandTabs] at member
    split at member
    · exact (List.mem_append.mp member).elim (fun blank => .inl (List.eq_of_mem_replicate blank)) later
    · split at member <;> exact here member

theorem expandTabs_seen {c : Char} (seen : isBlank c = false) (column : Nat) (s : List Char) :
    expandTabs column (c :: s) = c :: expandTabs (column + 1) s := by
  have tab : c ≠ '\t' := by
    rintro rfl
    cases seen
  have break_ : ¬(c = '\n' ∨ c = '\r') := by
    rintro (rfl | rfl) <;> cases seen
  rw [expandTabs, if_neg tab, if_neg break_]

theorem expandTabs_of_not_mem (none : '\t' ∉ s) (column : Nat) : expandTabs column s = s := by
  induction s generalizing column with
  | nil => rfl
  | cons c s ih =>
    rw [List.mem_cons, not_or] at none
    rw [expandTabs, if_neg (Ne.symm none.1)]
    split <;> rw [ih none.2]

theorem exists_expandTabs_append (column : Nat) (a b : List Char) :
    ∃ later, expandTabs column (a ++ b) = expandTabs column a ++ expandTabs later b := by
  induction a generalizing column with
  | nil => exact ⟨column, rfl⟩
  | cons c a ih =>
    rw [List.cons_append, expandTabs, expandTabs]
    split
    · obtain ⟨later, split⟩ := ih (column + (8 - column % 8))
      exact ⟨later, by rw [List.append_assoc, ← split]⟩
    · split
      · exact (ih 0).imp fun _ split => congrArg (c :: ·) split
      · exact (ih (column + 1)).imp fun _ split => congrArg (c :: ·) split

/-! ### Words and the blanks between them -/

theorem flatten_chunks (s : List Char) : (chunks s).flatten = s := by
  induction s with
  | nil => rfl
  | cons c s ih =>
    rw [chunks]
    split
    · rename_i d chunk more found
      rw [found] at ih
      rw [← ih]
      split <;> rfl
    · rw [List.flatten_cons, ih]
      rfl

theorem of_mem_chunks {chunk : List Char} (member : chunk ∈ chunks s) :
    chunk ≠ [] ∧ ∃ blank, ∀ c ∈ chunk, isAsciiBlank c = blank := by
  induction s generalizing chunk with
  | nil => cases member
  | cons c s ih =>
    have alone : [c] ≠ [] ∧ ∃ blank, ∀ d ∈ [c], isAsciiBlank d = blank :=
      ⟨List.cons_ne_nil _ _, isAsciiBlank c, fun d single => List.mem_singleton.mp single ▸ rfl⟩
    rw [chunks] at member
    split at member
    · rename_i d first more found
      rw [found] at ih
      split at member
      · rename_i alike
        rcases List.mem_cons.mp member with rfl | later
        · obtain ⟨-, blank, uniform⟩ := ih List.mem_cons_self
          refine ⟨List.cons_ne_nil _ _, blank, fun e inside => ?_⟩
          rcases List.mem_cons.mp inside with rfl | inside
          · rw [eq_of_beq alike]
            exact uniform d List.mem_cons_self
          · exact uniform e inside
        · exact ih (List.mem_cons_of_mem _ later)
      · rcases List.mem_cons.mp member with rfl | later
        · exact alone
        · exact ih later
    · rcases List.mem_cons.mp member with rfl | later
      · exact alone
      · exact ih later

/-! ### Lines of chunks -/

theorem takeFitting_append (width used : Nat) (pieces : List (List Char)) :
    (takeFitting width used pieces).1 ++ (takeFitting width used pieces).2 = pieces := by
  induction pieces generalizing used with
  | nil => rfl
  | cons chunk pieces ih =>
    rw [takeFitting]
    split
    · exact congrArg (chunk :: ·) (ih (used + chunk.length))
    · rfl

theorem takeFitting_fits (used : Nat) (pieces : List (List Char))
    (some : (takeFitting width used pieces).1 ≠ []) :
    used + (takeFitting width used pieces).1.flatten.length ≤ width := by
  induction pieces generalizing used with
  | nil => exact absurd rfl some
  | cons chunk pieces ih =>
    rw [takeFitting] at some ⊢
    split
    · rename_i fits
      show used + (chunk ++ (takeFitting width (used + chunk.length) pieces).1.flatten).length ≤ width
      rw [List.length_append]
      by_cases last : (takeFitting width (used + chunk.length) pieces).1 = []
      · rw [last]
        exact fits
      · have others := ih (used + chunk.length) last
        omega
    · rename_i wide
      rw [if_neg wide] at some
      exact absurd rfl some

/-- A line takes a first part of the chunks, which is not empty, and fits unless it is one chunk. -/
theorem takeLine_spec (width : Nat) (pieces : List (List Char)) :
    (takeLine width pieces).1 ++ (takeLine width pieces).2 = pieces ∧
      (pieces ≠ [] → (takeLine width pieces).1 ≠ []) ∧
      ((takeLine width pieces).1.flatten.length ≤ width ∨
        ∃ chunk, (takeLine width pieces).1 = [chunk]) := by
  have whole := takeFitting_append width 0 pieces
  have fits := @takeFitting_fits width 0 pieces
  rw [takeLine]
  generalize takeFitting width 0 pieces = taken at whole fits
  obtain ⟨line, rest⟩ := taken
  cases line with
  | nil =>
    subst whole
    cases rest with
    | nil => exact ⟨rfl, id, .inl (Nat.zero_le _)⟩
    | cons chunk rest => exact ⟨rfl, fun _ => List.cons_ne_nil _ _, .inr ⟨chunk, rfl⟩⟩
  | cons chunk line =>
    refine ⟨whole, fun _ => List.cons_ne_nil _ _, .inl ?_⟩
    simpa using fits (List.cons_ne_nil _ _)

theorem prefix_withoutBlankEnd (pieces : List (List Char)) : withoutBlankEnd pieces <+: pieces := by
  unfold withoutBlankEnd
  split
  · split
    · exact List.dropLast_prefix _
    · exact List.prefix_rfl
  · exact List.prefix_rfl

theorem visible_withoutBlankEnd (pieces : List (List Char)) :
    visible (withoutBlankEnd pieces).flatten = visible pieces.flatten := by
  unfold withoutBlankEnd
  split
  · rename_i last found
    split
    · rename_i blank
      obtain ⟨before, rfl⟩ := List.getLast?_eq_some_iff.mp found
      simp [visible_eq_nil_of_isBlankText blank]
    · rfl
  · rfl

/-- Of one chunk it leaves a word, or nothing. -/
theorem withoutBlankEnd_single (chunk : List Char) :
    withoutBlankEnd [chunk] = if isBlankText chunk then [] else [chunk] := rfl

theorem visible_lineStart (first : Bool) (chunk : List Char) (rest : List (List Char)) :
    visible (if !first && isBlankText chunk then rest else chunk :: rest).flatten =
      visible (chunk :: rest).flatten := by
  split
  · rename_i blank
    rw [List.flatten_cons, visible_append,
      visible_eq_nil_of_isBlankText (Bool.and_eq_true_iff.mp blank).2, List.nil_append]
  · rfl

theorem lineStart_suffix (first : Bool) (chunk : List Char) (rest : List (List Char)) :
    (if !first && isBlankText chunk then rest else chunk :: rest) <:+ chunk :: rest := by
  split
  · exact List.suffix_cons _ _
  · exact List.suffix_rfl

theorem length_afterLine_le (first : Bool) (chunk : List Char) (rest : List (List Char)) :
    (takeLine width (if !first && isBlankText chunk then rest else chunk :: rest)).2.length ≤
      rest.length := by
  split
  · have whole := congrArg List.length (takeLine_spec width rest).1
    rw [List.length_append] at whole
    omega
  · obtain ⟨whole, some, -⟩ := takeLine_spec width (chunk :: rest)
    have here := List.length_pos_of_ne_nil (some (List.cons_ne_nil _ _))
    have whole := congrArg List.length whole
    rw [List.length_append, List.length_cons] at whole
    omega

theorem visible_fillLines {fuel : Nat} (first : Bool) (enough : pieces.length ≤ fuel) :
    visible (fillLines width fuel first pieces).flatten = visible pieces.flatten := by
  induction fuel generalizing first pieces with
  | zero =>
    cases List.eq_nil_of_length_eq_zero (Nat.le_zero.mp enough)
    rfl
  | succ fuel ih =>
    cases pieces with
    | nil => rfl
    | cons chunk rest =>
      have fewer := @length_afterLine_le width first chunk rest
      rw [List.length_cons] at enough
      rw [fillLines, ← visible_lineStart first chunk rest]
      generalize (if !first && isBlankText chunk then rest else chunk :: rest) = started at fewer ⊢
      have whole := (takeLine_spec width started).1
      have ended := visible_withoutBlankEnd (takeLine width started).1
      conv_rhs => rw [← whole, List.flatten_append, visible_append, ← ended]
      dsimp only
      split
      · rename_i none
        rw [none, ih first (by omega)]
        rfl
      · rw [List.flatten_cons, visible_append, ih false (by omega)]

theorem fillLines_sublist (width fuel : Nat) (first : Bool) (pieces : List (List Char)) :
    (fillLines width fuel first pieces).flatten.Sublist pieces.flatten := by
  induction fuel generalizing first pieces with
  | zero => exact List.nil_sublist _
  | succ fuel ih =>
    cases pieces with
    | nil => exact List.nil_sublist _
    | cons chunk rest =>
      have suffix := (lineStart_suffix first chunk rest).sublist.flatten
      rw [fillLines]
      generalize (if !first && isBlankText chunk then rest else chunk :: rest) = started at suffix ⊢
      have whole := (takeLine_spec width started).1
      have ended := (prefix_withoutBlankEnd (takeLine width started).1).sublist.flatten
      refine List.Sublist.trans ?_ suffix
      conv_rhs => rw [← whole, List.flatten_append]
      dsimp only
      split
      · exact (ih first _).trans (List.sublist_append_right _ _)
      · rw [List.flatten_cons]
        exact ended.append (ih false _)

theorem fillLines_width {fuel : Nat} {first : Bool}
    (uniform : ∀ chunk ∈ pieces, ∃ blank, ∀ c ∈ chunk, isAsciiBlank c = blank)
    (member : line ∈ fillLines width fuel first pieces) :
    line.length ≤ width ∨ ∀ c ∈ line, isAsciiBlank c = false := by
  induction fuel generalizing first pieces with
  | zero => cases member
  | succ fuel ih =>
    cases pieces with
    | nil => cases member
    | cons chunk rest =>
      have suffix := (lineStart_suffix first chunk rest).subset
      rw [fillLines] at member
      generalize (if !first && isBlankText chunk then rest else chunk :: rest) = started
        at suffix member
      obtain ⟨whole, -, fits⟩ := takeLine_spec width started
      have among : ∀ chunk ∈ (takeLine width started).1 ++ (takeLine width started).2,
          ∃ blank, ∀ c ∈ chunk, isAsciiBlank c = blank := by
        rw [whole]
        exact fun chunk inside => uniform chunk (suffix inside)
      have later : ∀ chunk ∈ (takeLine width started).2,
          ∃ blank, ∀ c ∈ chunk, isAsciiBlank c = blank :=
        fun chunk inside => among chunk (List.mem_append_right _ inside)
      dsimp only at member
      split at member
      · exact ih later member
      · rename_i some
        rcases List.mem_cons.mp member with rfl | member
        · rcases fits with fits | ⟨word, single⟩
          · exact .inl ((prefix_withoutBlankEnd _).sublist.flatten.length_le.trans fits)
          · rw [single, withoutBlankEnd_single] at some ⊢
            split at some
            · exact absurd rfl some
            · rename_i visible
              rw [if_neg visible, List.flatten_singleton]
              obtain ⟨blank, alike⟩ := among word (by rw [single]; simp)
              refine .inr fun c inside => ?_
              cases blank with
              | false => exact alike c inside
              | true =>
                refine absurd (List.all_eq_true.mpr fun d member => ?_) visible
                exact isBlank_of_isAsciiBlank (alike d member)
        · exact ih later member

/-! ### Paragraphs -/

theorem visible_map_blank (s : List Char) :
    visible (s.map fun c => if isAsciiBlank c then ' ' else c) = visible s := by
  induction s with
  | nil => rfl
  | cons c s ih =>
    rw [List.map_cons, visible_cons, visible_cons, ih]
    cases ascii : isAsciiBlank c with
    | false => rfl
    | true =>
      rw [isBlank_of_isAsciiBlank ascii]
      rfl

/-- Filling loses nothing that is visible. -/
@[simp] theorem visible_fill (width : Nat) (s : List Char) :
    visible (fill width s).flatten = visible s := by
  rw [fill, visible_fillLines true (Nat.le_refl _), flatten_chunks, visible_map_blank,
    visible_expandTabs]

/-- Filling adds nothing but blanks. -/
theorem mem_fill {c : Char} (member : line ∈ fill width s) (inside : c ∈ line) : c = ' ' ∨ c ∈ s := by
  have listed := (fillLines_sublist ..).subset (List.mem_flatten.mpr ⟨line, member, inside⟩)
  rw [flatten_chunks] at listed
  obtain ⟨d, expanded, rfl⟩ := List.mem_map.mp listed
  split
  · exact .inl rfl
  · exact mem_expandTabs expanded

theorem fill_width (member : line ∈ fill width s) :
    line.length ≤ width ∨ ∀ c ∈ line, isAsciiBlank c = false :=
  fillLines_width (fun _ member => (of_mem_chunks member).2) member

/-! ### Indentation -/

theorem isBlank_of_isIndent {c : Char} (indent : isIndent c = true) : isBlank c = true := by
  simp only [isIndent, Bool.or_eq_true, beq_iff_eq] at indent
  rcases indent with rfl | rfl <;> decide

theorem prefix_commonStart_iff {p : List Char} :
    p <+: commonStart margin₁ margin₂ ↔ p <+: margin₁ ∧ p <+: margin₂ := by
  induction margin₁ generalizing margin₂ p with
  | nil =>
    rw [commonStart]
    · constructor
      · intro starts
        cases List.prefix_nil.mp starts
        exact ⟨List.nil_prefix, List.nil_prefix⟩
      · exact And.left
    · exact nofun
  | cons a as ih =>
    cases margin₂ with
    | nil =>
      rw [commonStart]
      · constructor
        · intro starts
          cases List.prefix_nil.mp starts
          exact ⟨List.nil_prefix, List.nil_prefix⟩
        · exact And.right
      · exact nofun
    | cons b bs =>
      rw [commonStart]
      cases p with
      | nil => simp
      | cons c p =>
        split
        · rename_i same
          subst same
          simp only [List.cons_prefix_cons, ih]
          tauto
        · rename_i differ
          simp only [List.cons_prefix_cons, List.prefix_nil, reduceCtorEq, false_iff]
          rintro ⟨⟨rfl, -⟩, rfl, -⟩
          exact differ rfl

theorem prefix_takeWhile_iff {p : List Char} {keep : Char → Bool} :
    p <+: s.takeWhile keep ↔ p <+: s ∧ ∀ c ∈ p, keep c = true := by
  constructor
  · intro starts
    exact ⟨starts.trans (List.takeWhile_prefix keep),
      fun c inside => List.mem_takeWhile_imp (starts.subset inside)⟩
  · rintro ⟨⟨rest, rfl⟩, only⟩
    rw [List.takeWhile_append_of_pos only]
    exact List.prefix_append _ _

/-- The common indentation of lines starts with all that they start with and that is indentation. -/
theorem prefix_margin_iff {lines : List (List Char)} (some : lines ≠ []) {p : List Char} :
    p <+: margin lines ↔ (∀ c ∈ p, isIndent c = true) ∧ ∀ line ∈ lines, p <+: line := by
  induction lines with
  | nil => exact absurd rfl some
  | cons line rest ih =>
    cases rest with
    | nil =>
      rw [margin, prefix_takeWhile_iff]
      simp [and_comm]
    | cons next rest =>
      rw [margin, prefix_commonStart_iff, prefix_takeWhile_iff, ih (List.cons_ne_nil _ _)]
      · simp only [List.forall_mem_cons]
        tauto
      · exact nofun

/-- `indentation` is made of spaces and tabs, starts all lines, and nothing longer does both. -/
structure CommonIndentation (lines : List (List Char)) (indentation : List Char) : Prop where
  indent : ∀ c ∈ indentation, isIndent c = true
  starts : ∀ line ∈ lines, indentation <+: line
  longest : ∀ p, (∀ c ∈ p, isIndent c = true) → (∀ line ∈ lines, p <+: line) → p <+: indentation

theorem margin_common {lines : List (List Char)} (some : lines ≠ []) :
    CommonIndentation lines (margin lines) :=
  have ⟨indent, starts⟩ := (prefix_margin_iff some).mp List.prefix_rfl
  ⟨indent, starts, fun _ indent starts => (prefix_margin_iff some).mpr ⟨indent, starts⟩⟩

theorem map_append_dedent (lines : List (List Char)) :
    (dedent lines).map (margin lines ++ ·) = lines := by
  rw [dedent, List.map_map]
  conv_rhs => rw [← List.map_id lines]
  refine List.map_congr_left fun line member => ?_
  obtain ⟨rest, whole⟩ := (margin_common (List.ne_nil_of_mem member)).starts line member
  rw [Function.comp_apply, ← whole, List.drop_left, id_eq]

@[simp] theorem visible_dedent (lines : List (List Char)) :
    visible (dedent lines).flatten = visible lines.flatten := by
  cases lines with
  | nil => rfl
  | cons line lines =>
    have common := margin_common (List.cons_ne_nil line lines)
    have blank : visible (margin (line :: lines)) = [] :=
      visible_eq_nil_iff.mpr fun c inside => isBlank_of_isIndent (common.indent c inside)
    conv_rhs => rw [← map_append_dedent (line :: lines)]
    refine (visible_map (fun other => ?_) _).symm
    rw [visible_append, blank, List.nil_append]

/-! ### Texts without blanks around them -/

/-- Starts and ends with something that is seen. -/
structure Tight (s : List Char) : Prop where
  starts : ∃ c rest, s = c :: rest ∧ isBlank c = false
  ends : ∃ before c, s = before ++ [c] ∧ isBlank c = false

namespace Tight

variable {a b : List Char}

theorem visible_start (tight : Tight (a ++ b)) (some : a ≠ []) : visible a ≠ [] := by
  obtain ⟨c, rest, whole, seen⟩ := tight.starts
  cases a with
  | nil => exact absurd rfl some
  | cons d a =>
    cases (List.cons.inj whole).1
    rw [visible_cons, if_neg (by simp [seen])]
    exact List.cons_ne_nil _ _

theorem visible_end (tight : Tight (a ++ b)) (some : b ≠ []) : visible b ≠ [] := by
  obtain ⟨before, c, whole, seen⟩ := tight.ends
  rcases List.eq_nil_or_concat b with rfl | ⟨b, d, rfl⟩
  · exact absurd rfl some
  rw [List.concat_eq_append] at whole ⊢
  rw [← List.append_assoc] at whole
  obtain ⟨-, same⟩ := List.append_inj' whole rfl
  cases same
  rw [visible_append, visible_cons, if_neg (by simp [seen])]
  simp

theorem append (first : Tight a) (between : List Char) (second : Tight b) : Tight (a ++ between ++ b) := by
  obtain ⟨c, rest, rfl, seen⟩ := first.starts
  obtain ⟨before, d, rfl, seen'⟩ := second.ends
  exact ⟨⟨c, _, rfl, seen⟩, ⟨_, d, (List.append_assoc ..).symm, seen'⟩⟩

/-- Trimming a text that is not blank. -/
theorem trim (filled : isBlankText s = false) : Tight (trim s) := by
  have some : trimStart s ≠ [] := by
    intro none
    have blank : isBlankText s = true := List.all_eq_true.mpr (List.dropWhile_eq_nil_iff.mp none)
    exact absurd (filled.symm.trans blank) nofun
  obtain ⟨c, rest, start⟩ := List.exists_cons_of_ne_nil some
  have seen : isBlank c = false := by
    have first := List.head?_dropWhile_not isBlank s
    rw [show s.dropWhile isBlank = c :: rest from start] at first
    exact first
  have kept : Text.trim s ≠ [] := by
    intro none
    have shown := visible_trimEnd (c :: rest)
    rw [← start, show trimEnd (trimStart s) = [] from none, start, visible_cons, if_neg (by simp [seen])] at shown
    cases shown
  obtain ⟨dropped, whole⟩ := prefix_dropEndWhile isBlank (trimStart s)
  constructor
  · obtain ⟨d, more, same⟩ := List.exists_cons_of_ne_nil kept
    rw [show dropEndWhile isBlank (trimStart s) = d :: more from same, start] at whole
    cases (List.cons.inj whole).1
    exact ⟨_, more, same, seen⟩
  · rcases List.eq_nil_or_concat (Text.trim s) with none | ⟨before, d, same⟩
    · exact absurd none kept
    have shown : (trimStart s).rdropWhile isBlank = before ++ [d] := by
      rw [← dropEndWhile_eq_rdropWhile, ← List.concat_eq_append, ← same]
      rfl
    have last := List.rdropWhile_last_not isBlank (trimStart s) (by rw [shown]; simp)
    refine ⟨before, d, same.trans (List.concat_eq_append ..), ?_⟩
    simpa [shown] using last

theorem joinWith {separator : List Char} (some : pieces ≠ []) (tight : ∀ piece ∈ pieces, Tight piece) :
    Tight (joinWith separator pieces) := by
  induction pieces with
  | nil => exact absurd rfl some
  | cons piece pieces ih =>
    have here := tight piece List.mem_cons_self
    by_cases last : pieces = []
    · subst last
      simpa [Text.joinWith] using here
    · have later := ih last fun other listed => tight other (List.mem_cons_of_mem _ listed)
      have split := joinWith_append separator (List.cons_ne_nil piece []) last
      have single : Text.joinWith separator [piece] = piece := by simp [Text.joinWith]
      rw [List.cons_append, List.nil_append, single] at split
      rw [split]
      exact here.append separator later

theorem expandTabs (tight : Tight s) (column : Nat) : Tight (expandTabs column s) := by
  obtain ⟨c, rest, whole, seen⟩ := tight.starts
  obtain ⟨before, d, closed, seen'⟩ := tight.ends
  refine ⟨⟨c, _, by rw [whole, expandTabs_seen seen], seen⟩, ?_⟩
  obtain ⟨later, split⟩ := exists_expandTabs_append column before [d]
  exact ⟨_, d, by rw [closed, split, expandTabs_seen seen']; rfl, seen'⟩

/-- What replaces blanks leaves the ends. -/
theorem map (tight : Tight s) {change : Char → Char} (same : ∀ c, isBlank c = false → change c = c) :
    Tight (s.map change) := by
  obtain ⟨c, rest, whole, seen⟩ := tight.starts
  obtain ⟨before, d, closed, seen'⟩ := tight.ends
  refine ⟨⟨c, _, by rw [whole, List.map_cons, same c seen], seen⟩, ⟨before.map change, d, ?_, seen'⟩⟩
  rw [closed, List.map_append, List.map_singleton, same d seen']

end Tight

/-! ### Paragraphs on one line -/

theorem chunks_of_uniform {blank : Bool} (some : s ≠ []) (uniform : ∀ c ∈ s, isAsciiBlank c = blank) :
    chunks s = [s] := by
  induction s with
  | nil => exact absurd rfl some
  | cons c s ih =>
    obtain ⟨here, others⟩ := List.forall_mem_cons.mp uniform
    cases s with
    | nil => rfl
    | cons d s =>
      have next := others d List.mem_cons_self
      rw [chunks, ih (List.cons_ne_nil _ _) others]
      simp [here, next]

theorem Tight.ne_nil (tight : Tight s) : s ≠ [] := by
  obtain ⟨c, rest, rfl, -⟩ := tight.starts
  exact List.cons_ne_nil c rest

theorem Tight.chunks_single_iff (tight : Tight s) :
    (∃ chunk, chunks s = [chunk]) ↔ ∀ c ∈ s, isAsciiBlank c = false := by
  constructor
  · rintro ⟨chunk, single⟩
    have whole := flatten_chunks s
    rw [single, List.flatten_singleton] at whole
    subst whole
    obtain ⟨blank, uniform⟩ := (of_mem_chunks (single ▸ List.mem_singleton_self chunk)).2
    obtain ⟨c, rest, rfl, seen⟩ := tight.starts
    cases blank with
    | false => exact uniform
    | true =>
      rw [isBlank_of_isAsciiBlank (uniform c List.mem_cons_self)] at seen
      cases seen
  · exact fun word => ⟨s, chunks_of_uniform tight.ne_nil word⟩

theorem takeFitting_all (used : Nat) (fits : used + pieces.flatten.length ≤ width) :
    takeFitting width used pieces = (pieces, []) := by
  induction pieces generalizing used with
  | nil => rfl
  | cons chunk pieces ih =>
    rw [List.flatten_cons, List.length_append] at fits
    rw [takeFitting, if_pos (by omega), ih _ (by omega)]

theorem takeLine_rest_eq_nil_iff (width : Nat) (some : pieces ≠ []) :
    (takeLine width pieces).2 = [] ↔ pieces.flatten.length ≤ width ∨ ∃ chunk, pieces = [chunk] := by
  obtain ⟨whole, -, fits⟩ := takeLine_spec width pieces
  constructor
  · intro none
    rw [none, List.append_nil] at whole
    rwa [whole] at fits
  · rintro (fits | ⟨chunk, rfl⟩)
    · obtain ⟨chunk, rest, rfl⟩ := List.exists_cons_of_ne_nil some
      rw [takeLine, takeFitting_all 0 (by omega)]
    · obtain ⟨first, rest, taken⟩ := List.exists_cons_of_ne_nil
        ((takeLine_spec width [chunk]).2.1 some)
      rw [taken, List.cons_append] at whole
      exact (List.append_eq_nil_iff.mp (List.cons.inj whole).2).2

theorem filter_eq_nil_iff_visible (lines : List (List Char)) :
    lines.filter (!isBlankText ·) = [] ↔ visible lines.flatten = [] := by
  rw [visible_flatten, List.flatMap_eq_nil_iff, List.filter_eq_nil_iff]
  refine forall₂_congr fun line _ => ?_
  rw [visible_eq_nil_iff]
  simp [isBlankText]

theorem isBlankText_eq_false (seen : visible s ≠ []) : isBlankText s = false := by
  cases blank : isBlankText s with
  | false => rfl
  | true => exact absurd (visible_eq_nil_of_isBlankText blank) seen

/-- The first line of a text without blanks around it is seen, and so is what does not fit on it. -/
theorem fillLines_tight (tight : Tight s) (width : Nat) : ∃ line more,
    (fillLines width (chunks s).length true (chunks s)).filter (!isBlankText ·) = line :: more ∧
      (more = [] ↔ s.length ≤ width ∨ ∀ c ∈ s, isAsciiBlank c = false) := by
  have whole := flatten_chunks s
  have filled : ∀ chunk ∈ chunks s, chunk ≠ [] := fun _ member => (of_mem_chunks member).1
  have word := tight.chunks_single_iff
  obtain ⟨chunk, rest, pieces⟩ := List.exists_cons_of_ne_nil fun none : chunks s = [] =>
    tight.ne_nil (whole.symm.trans (congrArg List.flatten none))
  rw [pieces] at whole filled word ⊢
  have fewer := @length_afterLine_le width true chunk rest
  have ended := visible_withoutBlankEnd (takeLine width (chunk :: rest)).1
  have all := takeLine_rest_eq_nil_iff width (List.cons_ne_nil chunk rest)
  obtain ⟨taken, first, -⟩ := takeLine_spec width (chunk :: rest)
  rw [whole, word] at all
  rw [List.length_cons, fillLines]
  simp only [Bool.not_true, Bool.false_and, Bool.false_eq_true, if_false] at fewer ⊢
  generalize takeLine width (chunk :: rest) = parts at *
  obtain ⟨line, after⟩ := parts
  dsimp only at *
  have cut : s = line.flatten ++ after.flatten := by
    rw [← List.flatten_append, taken, whole]
  have begun : visible line.flatten ≠ [] := by
    refine (cut ▸ tight).visible_start ?_
    obtain ⟨_, more, rfl⟩ := List.exists_cons_of_ne_nil (first (List.cons_ne_nil _ _))
    cases (List.cons.inj taken).1
    simp [filled chunk List.mem_cons_self]
  have left : visible after.flatten = [] ↔ after = [] := by
    refine ⟨fun none => ?_, fun none => none ▸ rfl⟩
    by_contra more
    refine (cut ▸ tight).visible_end ?_ none
    obtain ⟨next, later, rfl⟩ := List.exists_cons_of_ne_nil more
    simp [filled next (taken ▸ List.mem_append_right _ List.mem_cons_self)]
  rw [← ended] at begun
  split
  · rename_i none
    exact absurd (congrArg (visible ·.flatten) none) begun
  · refine ⟨_, _, List.filter_cons_of_pos (by rw [isBlankText_eq_false begun]; rfl), ?_⟩
    rw [filter_eq_nil_iff_visible, visible_fillLines false fewer, left, all]

/-- A paragraph without blanks around it is filled into one line exactly if it fits, or is one word. -/
theorem fill_tight (tight : Tight s) (width : Nat) : ∃ line more,
    (fill width s).filter (!isBlankText ·) = line :: more ∧
      (more = [] ↔ (expandTabs 0 s).length ≤ width ∨ ∀ c ∈ expandTabs 0 s, isAsciiBlank c = false) := by
  have seen : ∀ c, isBlank c = false → (if isAsciiBlank c then ' ' else c) = c := by
    intro c seen
    rw [if_neg]
    intro blank
    rw [isBlank_of_isAsciiBlank blank] at seen
    cases seen
  obtain ⟨line, more, lines, single⟩ := fillLines_tight ((tight.expandTabs 0).map seen) width
  refine ⟨line, more, lines, single.trans ?_⟩
  rw [List.length_map, List.forall_mem_map]
  refine or_congr_right (forall₂_congr fun c _ => ?_)
  cases blank : isAsciiBlank c with
  | true => simp [isAsciiBlank]
  | false => simp [blank]

end GoIdl.Text
