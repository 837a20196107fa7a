import GoIdl.Text.Blank
import GoIdl.Text.Lines
import Mathlib.Data.List.DropRight

/-!
# Lines and what is visible

Cutting a text into lines loses line ends only, and trimming loses blanks only. What is left without
blanks, the visible text, is what lines, trimmed or not, have in common with the text.
-/

namespace GoIdl.Text

variable {s t : List Char} {c : Char}

/-! ### Blanks -/

theorem isBlank_of_isLineEnd (lineEnd : isLineEnd c = true) : isBlank c = true := by
  simp only [isLineEnd, isBlank, decide_eq_true_eq] at *
  omega

theorem isBlank_of_isAsciiBlank (blank : isAsciiBlank c = true) : isBlank c = true := by
  simp only [isAsciiBlank, Bool.or_eq_true, beq_iff_eq, decide_eq_true_eq] at blank
  rcases blank with rfl | control
  · decide
  · simp only [isBlank, decide_eq_true_eq]
    omega

/-- A text without its blanks. -/
def visible (s : List Char) : List Char := s.filter (!isBlank ·)

@[simp] theorem visible_nil : visible [] = [] := rfl

@[simp] theorem visible_append (s t : List Char) : visible (s ++ t) = visible s ++ visible t :=
  List.filter_append ..

@[simp] theorem visible_cons (c : Char) (s : List Char) :
    visible (c :: s) = if isBlank c then visible s else c :: visible s := by
  cases blank : isBlank c <;> simp [visible, blank]

theorem visible_eq_nil_iff : visible s = [] ↔ ∀ c ∈ s, isBlank c = true := by
  simp [visible, List.filter_eq_nil_iff]

theorem visible_eq_nil_of_isBlankText (blank : isBlankText s = true) : visible s = [] :=
  visible_eq_nil_iff.mpr (List.all_eq_true.mp blank)

theorem visible_flatten (pieces : List (List Char)) :
    visible pieces.flatten = pieces.flatMap visible := by
  rw [visible, List.filter_flatten, List.flatMap_def]
  rfl

theorem visible_flatMap {α : Type} (items : List α) (text : α → List Char) :
    visible (items.flatMap text) = items.flatMap fun item => visible (text item) :=
  List.filter_flatMap

theorem visible_dropWhile {drop : Char → Bool} (blanks : ∀ c, drop c = true → isBlank c = true) :
    visible (s.dropWhile drop) = visible s := by
  conv_rhs => rw [← List.takeWhile_append_dropWhile (p := drop) (l := s), visible_append]
  rw [visible_eq_nil_iff.mpr fun c member => blanks c (List.mem_takeWhile_imp member)]
  rfl

/-! ### Ends of texts -/

theorem dropEndWhile_eq_rdropWhile (drop : Char → Bool) (s : List Char) :
    dropEndWhile drop s = s.rdropWhile drop := by
  induction s with
  | nil => rfl
  | cons c s ih =>
    rw [dropEndWhile, ih, List.rdropWhile, List.rdropWhile, List.reverse_cons, List.dropWhile_append]
    cases kept : s.reverse.dropWhile drop with
    | nil => cases here : drop c <;> simp [here]
    | cons d rest => simp

theorem prefix_dropEndWhile (drop : Char → Bool) (s : List Char) : dropEndWhile drop s <+: s := by
  rw [dropEndWhile_eq_rdropWhile]
  exact List.rdropWhile_prefix drop s

theorem exists_dropEndWhile_append (drop : Char → Bool) (s : List Char) :
    ∃ dropped, dropEndWhile drop s ++ dropped = s ∧ ∀ c ∈ dropped, drop c = true := by
  refine ⟨s.rtakeWhile drop, ?_, fun c member => List.mem_rtakeWhile_imp member⟩
  rw [dropEndWhile_eq_rdropWhile, List.rdropWhile_append_rtakeWhile]

theorem visible_dropEndWhile {drop : Char → Bool} (blanks : ∀ c, drop c = true → isBlank c = true) :
    visible (dropEndWhile drop s) = visible s := by
  obtain ⟨dropped, whole, only⟩ := exists_dropEndWhile_append drop s
  conv_rhs => rw [← whole, visible_append]
  rw [visible_eq_nil_iff.mpr fun c member => blanks c (only c member), List.append_nil]

@[simp] theorem visible_trimEnd (s : List Char) : visible (trimEnd s) = visible s :=
  visible_dropEndWhile fun _ => id

@[simp] theorem visible_trim (s : List Char) : visible (trim s) = visible s := by
  rw [trim, visible_trimEnd]
  exact visible_dropWhile fun _ => id

theorem dropEndWhile_append {drop : Char → Bool} (s : List Char) {dropped : List Char}
    (only : ∀ c ∈ dropped, drop c = true) : dropEndWhile drop (s ++ dropped) = dropEndWhile drop s := by
  rw [dropEndWhile_eq_rdropWhile, dropEndWhile_eq_rdropWhile, List.rdropWhile, List.rdropWhile,
    List.reverse_append, List.dropWhile_append_of_pos fun c member => only c (List.mem_reverse.mp member)]

@[simp] theorem trim_trimEnd (s : List Char) : trim (trimEnd s) = trim s := by
  obtain ⟨dropped, whole, only⟩ := exists_dropEndWhile_append isBlank s
  conv_rhs => rw [← whole, trim, trimStart, List.dropWhile_append]
  rw [trim, trimStart, trimEnd, trimEnd]
  split
  · rename_i none
    rw [List.isEmpty_iff.mp none, List.dropWhile_eq_nil_iff.mpr only]
    rfl
  · exact (dropEndWhile_append _ only).symm

theorem trim_sublist (s : List Char) : (trim s).Sublist s :=
  (prefix_dropEndWhile isBlank (trimStart s)).sublist.trans (List.dropWhile_suffix isBlank).sublist

/-! ### Joined texts -/

theorem mem_of_mem_intersperse {α : Type} {item separator : α} {items : List α}
    (member : item ∈ items.intersperse separator) : item = separator ∨ item ∈ items := by
  induction items with
  | nil => cases member
  | cons first items ih =>
    cases items with
    | nil => exact .inr member
    | cons second items =>
      rw [List.intersperse_cons_cons, List.mem_cons, List.mem_cons] at member
      rcases member with rfl | rfl | later
      · exact .inr List.mem_cons_self
      · exact .inl rfl
      · exact (ih later).imp_right (List.mem_cons_of_mem _)

theorem mem_joinWith {separator : List Char} {pieces : List (List Char)}
    (member : c ∈ joinWith separator pieces) : c ∈ separator ∨ ∃ piece ∈ pieces, c ∈ piece := by
  obtain ⟨part, listed, inside⟩ := List.mem_flatten.mp member
  rcases mem_of_mem_intersperse listed with rfl | listed
  · exact .inl inside
  · exact .inr ⟨part, listed, inside⟩

theorem visible_joinWith {separator : List Char} (blank : visible separator = [])
    (pieces : List (List Char)) : visible (joinWith separator pieces) = visible pieces.flatten := by
  induction pieces with
  | nil => rfl
  | cons piece pieces ih =>
    cases pieces with
    | nil => rfl
    | cons next pieces =>
      rw [joinWith] at ih
      rw [joinWith, List.intersperse_cons_cons, List.flatten_cons, List.flatten_cons, visible_append,
        visible_append, blank, List.nil_append, ih, List.flatten_cons (l := piece), visible_append]

theorem visible_map {change : List Char → List Char}
    (same : ∀ line, visible (change line) = visible line) (lines : List (List Char)) :
    visible (lines.map change).flatten = visible lines.flatten := by
  rw [visible_flatten, visible_flatten, List.flatMap_map]
  exact List.flatMap_congr fun line _ => same line

theorem visible_filter (pieces : List (List Char)) :
    visible (pieces.filter (!isBlankText ·)).flatten = visible pieces.flatten := by
  induction pieces with
  | nil => rfl
  | cons piece pieces ih =>
    rw [List.filter_cons, List.flatten_cons, visible_append, ← ih]
    cases blank : isBlankText piece with
    | true => rw [visible_eq_nil_of_isBlankText blank]; rfl
    | false => exact visible_append ..

theorem joinWith_append (separator : List Char) {first second : List (List Char)} (some : first ≠ [])
    (more : second ≠ []) : joinWith separator (first ++ second) =
      joinWith separator first ++ separator ++ joinWith separator second := by
  induction first with
  | nil => exact absurd rfl some
  | cons piece rest ih =>
    cases rest with
    | nil =>
      cases second with
      | nil => exact absurd rfl more
      | cons next second => simp [joinWith]
    | cons next rest => simpa [joinWith] using ih (List.cons_ne_nil _ _)

theorem joinWith_eq_nil {pieces : List (List Char)} (filled : ∀ piece ∈ pieces, piece ≠ [])
    (separator : List Char) :
    joinWith separator pieces = [] ↔ pieces = [] := by
  cases pieces with
  | nil => simp [joinWith]
  | cons piece pieces =>
    have here := filled piece List.mem_cons_self
    cases pieces <;> simp [joinWith, here]

/-! ### Pieces -/

theorem splitOn_eq (separator : Char) (s : List Char) : splitOn separator s = s.splitOn separator := by
  induction s with
  | nil => rfl
  | cons c rest ih =>
    have more : rest.splitOn separator ≠ [] := List.splitOnP_ne_nil _ _
    have step : (c :: rest).splitOn separator =
        if c == separator then [] :: rest.splitOn separator
        else (rest.splitOn separator).modifyHead (List.cons c) :=
      List.splitOnP_cons_eq_if_modifyHead ..
    rw [splitOn, ih, step]
    cases split : rest.splitOn separator with
    | nil => exact absurd split more
    | cons piece pieces =>
      by_cases same : c = separator
      · simp [same]
      · simp [same, consHead]

theorem joinWith_splitOn (separator : Char) (s : List Char) :
    joinWith [separator] (splitOn separator s) = s := by
  rw [splitOn_eq]
  exact List.intercalate_splitOn separator

theorem splitOn_joinWith {separator : Char} {pieces : List (List Char)} (some : pieces ≠ [])
    (apart : ∀ piece ∈ pieces, separator ∉ piece) :
    splitOn separator (joinWith [separator] pieces) = pieces := by
  rw [splitOn_eq]
  exact List.splitOn_intercalate separator apart some

theorem not_mem_of_mem_splitOn {separator : Char} {s piece : List Char}
    (member : piece ∈ splitOn separator s) : separator ∉ piece := by
  induction s generalizing piece with
  | nil =>
    rw [splitOn, List.mem_singleton] at member
    subst member
    exact List.not_mem_nil
  | cons c rest ih =>
    unfold splitOn at member
    split at member
    · rcases List.mem_cons.mp member with rfl | later
      · exact List.not_mem_nil
      · exact ih later
    · rename_i other
      cases split : splitOn separator rest with
      | nil =>
        rw [split, consHead, List.mem_singleton] at member
        subst member
        simpa using Ne.symm other
      | cons first pieces =>
        rw [split, consHead] at member
        rcases List.mem_cons.mp member with rfl | later
        · have apart := ih (split ▸ List.mem_cons_self)
          simp [Ne.symm other, apart]
        · exact ih (split ▸ List.mem_cons_of_mem _ later)

theorem length_splitOn (separator : Char) (s : List Char) :
    (splitOn separator s).length = s.count separator + 1 := by
  induction s with
  | nil => rfl
  | cons c rest ih =>
    rw [splitOn]
    split
    · rename_i same
      rw [List.length_cons, ih, same, List.count_cons_self]
    · rename_i other
      rw [List.count_cons_of_ne other, ← ih]
      cases split : splitOn separator rest with
      | nil =>
        rw [split] at ih
        cases ih
      | cons piece pieces => rfl

/-- A piece stands behind the separators of the pieces before it, and before the next one. -/
theorem exists_joinWith_append (separator : Char) (before : List (List Char)) (piece : List Char)
    (after : List (List Char)) : ∃ rest, (∀ c ∈ rest.head?, c = separator) ∧
      joinWith [separator] (before ++ piece :: after) =
        before.flatMap (· ++ [separator]) ++ (piece ++ rest) := by
  induction before with
  | nil =>
    cases after with
    | nil => exact ⟨[], nofun, by simp [joinWith]⟩
    | cons next after =>
      refine ⟨separator :: joinWith [separator] (next :: after), by simp, ?_⟩
      simp [joinWith]
  | cons first before ih =>
    obtain ⟨rest, next, whole⟩ := ih
    refine ⟨rest, next, ?_⟩
    have more : before ++ piece :: after ≠ [] := by simp
    have split := joinWith_append [separator] (List.cons_ne_nil first []) more
    rw [List.cons_append, List.nil_append] at split
    rw [List.cons_append, split, whole, List.flatMap_cons, List.append_assoc]
    simp [joinWith]

/-! ### Lines -/

theorem consHead_append (c : Char) {pieces : List (List Char)} (some : pieces ≠ [])
    (more : List (List Char)) : consHead c (pieces ++ more) = consHead c pieces ++ more := by
  cases pieces with
  | nil => exact absurd rfl some
  | cons piece pieces => rfl

theorem lines_ne_nil {s : List Char} (some : s ≠ []) : lines s ≠ [] := by
  unfold lines
  split
  · exact absurd rfl some
  · exact List.cons_ne_nil _ _
  · split
    · exact List.cons_ne_nil _ _
    · rename_i rest _ _
      cases lines rest <;> exact List.cons_ne_nil _ _

/-- A character that does not start the pair of a carriage return and a line feed. -/
theorem lines_single {c : Char} {s : List Char} (alone : ∀ rest, c = '\r' → s ≠ '\n' :: rest) :
    lines (c :: s) = if isLineEnd c then [] :: lines s else consHead c (lines s) := by
  rw [lines]
  intro rest carriage feed
  exact alone rest carriage feed

theorem lines_ordinary (ordinary : isLineEnd c = false) (s : List Char) :
    lines (c :: s) = consHead c (lines s) := by
  have carriage : c ≠ '\r' := by
    rintro rfl
    cases ordinary
  rw [lines_single fun _ same => absurd same carriage, ordinary]
  rfl

theorem alone_append {c : Char} {s : List Char} (alone : ∀ rest, c = '\r' → s ≠ '\n' :: rest)
    (some : ¬(c = '\r' ∧ s = [])) (t : List Char) : ∀ rest, c = '\r' → s ++ t ≠ '\n' :: rest := by
  intro rest carriage same
  cases s with
  | nil => exact some ⟨carriage, rfl⟩
  | cons d s => exact alone s carriage (by rw [(List.cons.inj same).1])

/-- The line break between two texts ends the last line of the first, or is an empty line of its own. -/
theorem lines_joined (a b : List Char) :
    lines (a ++ '\n' :: b) = lines a ++ lines b ∨ lines (a ++ '\n' :: b) = lines a ++ [] :: lines b := by
  induction a using lines.induct with
  | case1 => exact .inr (lines_single (by simp))
  | case2 rest ih =>
    rw [List.cons_append, List.cons_append, lines, lines]
    exact ih.imp (congrArg ([] :: ·)) (congrArg ([] :: ·))
  | case3 c rest pair lineEnd ih =>
    by_cases closed : c = '\r' ∧ rest = []
    · obtain ⟨rfl, rfl⟩ := closed
      exact .inl (by simp [lines, isLineEnd])
    · rw [List.cons_append, lines_single (alone_append pair closed _), lines_single pair, if_pos lineEnd,
        if_pos lineEnd]
      exact ih.imp (congrArg ([] :: ·)) (congrArg ([] :: ·))
  | case4 c rest pair ordinary ih =>
    have split := lines_ordinary (Bool.of_not_eq_true ordinary)
    rw [List.cons_append, split, split]
    cases rest with
    | nil => exact .inl (by simp [lines, isLineEnd, consHead])
    | cons d rest =>
      have some := lines_ne_nil (List.cons_ne_nil d rest)
      rw [← consHead_append c some, ← consHead_append c some]
      exact ih.imp (congrArg (consHead c)) (congrArg (consHead c))

theorem not_isLineEnd_of_mem_lines {line : List Char} (member : line ∈ lines s) :
    ∀ c ∈ line, isLineEnd c = false := by
  induction s using lines.induct generalizing line with
  | case1 => cases member
  | case2 rest ih =>
    rw [lines] at member
    rcases List.mem_cons.mp member with rfl | later
    · exact nofun
    · exact ih later
  | case3 c rest pair lineEnd ih =>
    rw [lines_single pair, if_pos lineEnd] at member
    rcases List.mem_cons.mp member with rfl | later
    · exact nofun
    · exact ih later
  | case4 c rest pair ordinary ih =>
    rw [lines_single pair, if_neg ordinary] at member
    have own : ∀ d, d = c → isLineEnd d = false := by
      rintro _ rfl
      simpa using ordinary
    cases following : lines rest with
    | nil =>
      rw [following, consHead, List.mem_singleton] at member
      subst member
      simpa using own c rfl
    | cons piece pieces =>
      rw [following, consHead] at member
      rw [following] at ih
      rcases List.mem_cons.mp member with rfl | later
      · intro d inside
        exact (List.mem_cons.mp inside).elim (own d) (ih List.mem_cons_self d)
      · exact ih (List.mem_cons_of_mem _ later)

theorem flatten_consHead (c : Char) (pieces : List (List Char)) :
    (consHead c pieces).flatten = c :: pieces.flatten := by
  cases pieces <;> rfl

@[simp] theorem visible_flatten_lines (s : List Char) : visible (lines s).flatten = visible s := by
  induction s using lines.induct with
  | case1 => rfl
  | case2 rest ih =>
    rw [lines, List.flatten_cons, List.nil_append, ih]
    rfl
  | case3 c rest pair lineEnd ih =>
    rw [lines_single pair, if_pos lineEnd, List.flatten_cons,
      List.nil_append, ih, visible_cons, if_pos (isBlank_of_isLineEnd lineEnd)]
  | case4 c rest pair ordinary ih =>
    rw [lines_single pair, if_neg ordinary, flatten_consHead, visible_cons,
      visible_cons, ih]

theorem lines_break (rest : List Char) : lines ('\n' :: rest) = [] :: lines rest :=
  lines_single (by simp)

theorem lines_append_break {line : List Char} (whole : ∀ c ∈ line, isLineEnd c = false)
    (rest : List Char) : lines (line ++ '\n' :: rest) = line :: lines rest := by
  induction line with
  | nil => exact lines_break rest
  | cons c line ih =>
    rw [List.cons_append, lines_ordinary (whole c List.mem_cons_self),
      ih fun d member => whole d (List.mem_cons_of_mem _ member)]
    rfl

theorem lines_whole (some : s ≠ []) (whole : ∀ c ∈ s, isLineEnd c = false) : lines s = [s] := by
  induction s with
  | nil => exact absurd rfl some
  | cons c s ih =>
    obtain ⟨ordinary, others⟩ := List.forall_mem_cons.mp whole
    rw [lines_ordinary ordinary]
    cases s with
    | nil => rfl
    | cons d s =>
      rw [ih (List.cons_ne_nil d s) others]
      rfl

theorem lines_flatMap_break {pieces : List (List Char)}
    (whole : ∀ piece ∈ pieces, ∀ c ∈ piece, isLineEnd c = false) :
    lines (pieces.flatMap (· ++ ['\n'])) = pieces := by
  induction pieces with
  | nil => rfl
  | cons piece pieces ih =>
    rw [List.flatMap_cons, List.append_assoc, List.singleton_append,
      lines_append_break (whole piece List.mem_cons_self),
      ih fun other member => whole other (List.mem_cons_of_mem _ member)]

/-! ### Lines between line feeds -/

theorem lines_append_end (a : List Char) {b : List Char} (lineEnd : isLineEnd c = true)
    (alone : ∀ rest, c = '\r' → b ≠ '\n' :: rest) : lines (a ++ c :: b) = lines (a ++ [c]) ++ lines b := by
  induction a using lines.induct with
  | case1 =>
    rw [List.nil_append, List.nil_append, lines_single alone, lines_single (by simp), if_pos lineEnd,
      if_pos lineEnd]
    rfl
  | case2 rest ih =>
    rw [List.cons_append, List.cons_append, lines, ih, List.cons_append, List.cons_append, lines,
      List.cons_append]
  | case3 d rest pair first ih =>
    by_cases closed : d = '\r' ∧ rest = []
    · obtain ⟨rfl, rfl⟩ := closed
      by_cases feed : c = '\n'
      · subst feed
        simp [lines]
      · have single : ∀ b more, '\r' = '\r' → c :: b ≠ '\n' :: more := fun _ _ _ same =>
          feed (List.cons.inj same).1
        rw [List.nil_append] at ih
        rw [List.cons_append, List.nil_append, lines_single (single b), if_pos first, ih, List.cons_append,
          List.nil_append, lines_single (single []), if_pos first, List.cons_append]
    · have alone := alone_append pair closed
      rw [List.cons_append, lines_single (alone _), if_pos first, ih, List.cons_append,
        lines_single (alone _), if_pos first, List.cons_append]
  | case4 d rest pair ordinary ih =>
    have split := lines_ordinary (Bool.of_not_eq_true ordinary)
    rw [List.cons_append, split, ih, List.cons_append, split, consHead_append d (lines_ne_nil (by simp))]

theorem lines_flatMap_feed (above : List (List Char)) (s : List Char) :
    lines (above.flatMap (· ++ ['\n']) ++ s) =
      above.flatMap (fun line => lines (line ++ ['\n'])) ++ lines s := by
  induction above with
  | nil => rfl
  | cons line above ih =>
    rw [List.flatMap_cons, List.append_assoc, List.append_assoc, List.singleton_append,
      lines_append_end line rfl (by simp), ih, List.flatMap_cons, List.append_assoc]

theorem head_lines (s : List Char) : (lines s)[0]?.getD [] = s.takeWhile (!isLineEnd ·) := by
  induction s using lines.induct with
  | case1 => rfl
  | case2 rest ih => rw [lines]; rfl
  | case3 c rest pair lineEnd ih =>
    rw [lines_single pair, if_pos lineEnd,
      List.takeWhile_cons_of_neg (by simp [lineEnd])]
    rfl
  | case4 c rest pair ordinary ih =>
    rw [lines_ordinary (Bool.of_not_eq_true ordinary), List.takeWhile_cons_of_pos (by simp [ordinary]),
      ← ih]
    cases lines rest <;> rfl

def withoutReturn (line : List Char) : List Char :=
  if line.getLast? = some '\r' then line.dropLast else line

/-- Nothing ends a line inside of it, a carriage return at its end apart. -/
def PlainLine (line : List Char) : Prop := ∀ c ∈ withoutReturn line, isLineEnd c = false

instance (line : List Char) : Decidable (PlainLine line) :=
  List.decidableBAll (isLineEnd · = false) (withoutReturn line)

theorem withoutReturn_cases (line : List Char) :
    line = withoutReturn line ++ ['\r'] ∨ withoutReturn line = line ∧ line.getLast? ≠ some '\r' := by
  unfold withoutReturn
  split
  · rename_i carriage
    obtain ⟨before, rfl⟩ := List.getLast?_eq_some_iff.mp carriage
    exact .inl (by rw [List.dropLast_concat])
  · rename_i other
    exact .inr ⟨rfl, other⟩

theorem takeWhile_eq_withoutReturn {line : List Char} :
    line.takeWhile (!isLineEnd ·) = withoutReturn line ↔ PlainLine line := by
  constructor
  · intro same c member
    rw [← same] at member
    simpa using List.mem_takeWhile_imp member
  · intro plain
    have ordinary : ∀ c ∈ withoutReturn line, (!isLineEnd c) = true := fun c member => by
      simp [plain c member]
    rcases withoutReturn_cases line with whole | ⟨whole, _⟩
    · conv_lhs => rw [whole, List.takeWhile_append_of_pos ordinary]
      exact List.append_nil _
    · rw [whole] at ordinary ⊢
      exact List.takeWhile_eq_self_iff.mpr ordinary

theorem lines_of_plain {line : List Char} (plain : PlainLine line) :
    lines (line ++ ['\n']) = [withoutReturn line] := by
  rcases withoutReturn_cases line with whole | ⟨whole, _⟩
  · have closed : ∀ {before : List Char}, (∀ c ∈ before, isLineEnd c = false) →
        lines (before ++ ['\r', '\n']) = [before] := by
      intro before plain
      induction before with
      | nil => rfl
      | cons c before ih =>
        obtain ⟨ordinary, others⟩ := List.forall_mem_cons.mp plain
        rw [List.cons_append, lines_ordinary ordinary, ih others]
        rfl
    conv_lhs => rw [whole, List.append_assoc]
    exact closed plain
  · rw [PlainLine, whole] at plain
    rw [whole, lines_append_break plain]
    rfl

theorem length_lines_of_not_plain {line : List Char} (single : '\n' ∉ line) (other : ¬PlainLine line) :
    2 ≤ (lines (line ++ ['\n'])).length := by
  simp only [PlainLine, not_forall, Bool.not_eq_false] at other
  obtain ⟨c, member, lineEnd⟩ := other
  have whole : ∃ a b, line = a ++ c :: b ∧ (c = '\r' → b ≠ []) := by
    obtain ⟨a, b, here⟩ := List.append_of_mem member
    rcases withoutReturn_cases line with whole | ⟨whole, open_⟩
    · refine ⟨a, b ++ ['\r'], ?_, fun _ => by simp⟩
      rw [whole, here, List.append_assoc, List.cons_append]
    · refine ⟨a, b, whole ▸ here, ?_⟩
      rintro rfl rfl
      rw [whole] at here
      exact open_ (by rw [here, List.getLast?_concat])
  obtain ⟨a, b, rfl, more⟩ := whole
  have alone : ∀ rest, c = '\r' → b ++ ['\n'] ≠ '\n' :: rest := by
    intro rest carriage same
    cases b with
    | nil => exact more carriage rfl
    | cons d b =>
      rw [(List.cons.inj same).1] at single
      simp at single
  have first := List.length_pos_of_ne_nil (lines_ne_nil (s := a ++ [c]) (by simp))
  have second := List.length_pos_of_ne_nil (lines_ne_nil (s := b ++ ['\n']) (by simp))
  rw [List.append_assoc, List.cons_append, lines_append_end a lineEnd alone, List.length_append]
  omega

end GoIdl.Text
