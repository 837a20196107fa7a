import GoIdl.Proofs.Syntax.Progress
import GoIdl.Proofs.Syntax.Steps

/-!
# What stands where

A position counts the line breaks before it and the characters behind the last of them. The reading
of a text counts along, so that tokens and comments stand where their positions say.
-/

namespace GoIdl

theorem Text.isBlank_of_isWord {c : Char} (word : isWord c = true) : isBlank c = false := by
  have none : ∀ n ∈ List.range' 9 5 ++ List.range' 28 5 ++ List.range' 0x2000 11 ++
      [0x85, 0xa0, 0x1680, 0x2028, 0x2029, 0x202f, 0x205f, 0x3000], isWord (Char.ofNat n) = false := by
    decide +kernel
  by_contra blank
  simp only [isBlank, Bool.not_eq_false, decide_eq_true_eq] at blank
  have other := none c.toNat (by
    simp only [List.mem_append, List.mem_range'_1, List.mem_cons, List.not_mem_nil]
    omega)
  rw [Char.ofNat_toNat, word] at other
  cases other

namespace Syntax

variable {source before after text rest : List Char} {r r' last : Reading} {c : Char}

/-! ### Positions -/

/-- What stands behind the last line break. -/
def lineUpTo (before : List Char) : List Char := (before.reverse.takeWhile (· != '\n')).reverse

/-- The position behind a text, line and column counted from one. -/
def Position.behind (before : List Char) : Position :=
  ⟨before.count '\n' + 1, (lineUpTo before).length + 1⟩

theorem lineUpTo_snoc (before : List Char) (c : Char) :
    lineUpTo (before ++ [c]) = if c = '\n' then [] else lineUpTo before ++ [c] := by
  rw [lineUpTo, lineUpTo, List.reverse_append, List.reverse_singleton, List.singleton_append,
    List.takeWhile_cons]
  by_cases line : c = '\n'
  · simp [line]
  · simp [line]

theorem Position.behind_line (before text : List Char) :
    (behind (before ++ text)).line = (behind before).line + text.count '\n' := by
  simp only [behind, List.count_append]
  omega

theorem Position.behind_after (before text : List Char) :
    (behind before).after text = behind (before ++ text) := by
  induction text generalizing before with
  | nil => rw [List.append_nil]; rfl
  | cons c text ih =>
    have step : (behind before).after (c :: text) = (behind (before ++ [c])).after text := by
      have here : behind (before ++ [c]) = if c = '\n' then ⟨(behind before).line + 1, 1⟩
          else ⟨(behind before).line, (behind before).column + 1⟩ := by
        rw [behind, behind, lineUpTo_snoc, List.count_append]
        by_cases line : c = '\n'
        · simp [line]
        · simp [line]
      rw [after, List.foldl_cons, ← here]
      rfl
    rw [step, ih, List.append_assoc, List.singleton_append]

theorem lineUpTo_append (before : List Char) (single : '\n' ∉ text) :
    lineUpTo (before ++ text) = lineUpTo before ++ text := by
  induction text generalizing before with
  | nil => rw [List.append_nil, List.append_nil]
  | cons c text ih =>
    rw [List.mem_cons, not_or] at single
    rw [← List.singleton_append, ← List.append_assoc, ih _ single.2, lineUpTo_snoc,
      if_neg (Ne.symm single.1), List.append_assoc]

/-- A position of a source tells what stands before it. -/
theorem Position.behind_inj {first second : List Char} (before : first <+: source)
    (before' : second <+: source) (same : behind first = behind second) : first = second := by
  have shorter : ∀ {a b : List Char}, behind a = behind b → a <+: b → a = b := by
    rintro a _ same ⟨more, rfl⟩
    simp only [behind, List.count_append, Position.mk.injEq] at same
    have single : '\n' ∉ more := List.count_eq_zero.mp (by omega)
    rw [lineUpTo_append a single, List.length_append] at same
    have none : more = [] := List.eq_nil_of_length_eq_zero (by omega)
    rw [none, List.append_nil]
  rcases List.prefix_or_prefix_of_prefix before before' with inside | inside
  · exact shorter same inside
  · exact (shorter same.symm inside).symm

theorem blank_lineUpTo (before text : List Char) :
    text.foldl (fun blank c => c == '\n' || (blank && Text.isBlank c))
        ((lineUpTo before).all Text.isBlank) =
      (lineUpTo (before ++ text)).all Text.isBlank := by
  induction text generalizing before with
  | nil => rw [List.append_nil]; rfl
  | cons c text ih =>
    have here : (c == '\n' || ((lineUpTo before).all Text.isBlank && Text.isBlank c)) =
        (lineUpTo (before ++ [c])).all Text.isBlank := by
      rw [lineUpTo_snoc]
      by_cases line : c = '\n'
      · simp [line]
      · simp [line]
    rw [List.foldl_cons, here, ih, List.append_assoc, List.singleton_append]

/-! ### Texts at positions -/

/-- The source has this text at this position. -/
def Stands (source : List Char) (pos : Position) (text : String) : Prop :=
  ∃ before after, source = before ++ text.toList ++ after ∧ pos = .behind before

/-- The source has this name at this position, and no longer one. -/
def NameStands (source : List Char) (pos : Position) (name : String) : Prop :=
  ∃ before after, source = before ++ name.toList ++ after ∧ pos = .behind before ∧ IsName name ∧
    Breaks after

/-- The source has the comment where it says, up to the line that it says, and nothing but white space
before it on its line if it stands alone. -/
def Comment.Stands (source : List Char) (c : Comment) : Prop :=
  ∃ before after, source = before ++ c.text.toList ++ after ∧ c.pos = .behind before ∧
    c.endLine = (Position.behind (before ++ c.text.toList)).line ∧
    c.standalone = (lineUpTo before).all Text.isBlank

/-! ### Scanned tokens -/

variable {accepted : List Terminal} {s : List Char} {t : Terminal}

/-- A token has a pattern or a spelling of its own, or it is a line break. -/
theorem scan_token (found : scan accepted s = some (.token t text, rest)) :
    (∃ u, pattern? u s = some (text, rest) ∧ t = classify accepted u text) ∨
      (t = .newline ∧ text = ['\n']) ∨
        (String.ofList text, t) ∈ Terminal.keywords ++ Terminal.signs ++ Terminal.brackets := by
  unfold scan at found
  split at found
  · cases found
  · split at found
    · rename_i u _ _ hit
      cases found
      obtain ⟨v, -, read⟩ := List.exists_of_findSome?_eq_some hit
      obtain ⟨_, matched, same⟩ := Option.map_eq_some_iff.mp read
      cases same
      exact .inl ⟨u, matched, rfl⟩
    · split at found
      · cases found
      · split at found
        · cases found
          exact .inr (.inl ⟨rfl, rfl⟩)
        · obtain ⟨⟨word, u⟩, member, read⟩ := List.exists_of_findSome?_eq_some found
          dsimp only at read
          split at read
          · cases read
            rw [String.ofList_toList]
            exact .inr (.inr (mem_of_spelled member))
          · cases read

theorem run?_ends {first more : Char → Bool} (found : run? first more s = some (text, rest)) :
    ∀ c ∈ rest.head?, more c = false := by
  unfold run? at found
  split at found
  · rename_i c s
    split at found
    · cases found
      exact span_stops more s
    · cases found
  · cases found

theorem scan_breaks (found : scan accepted s = some (.token .name text, rest)) : Breaks rest := by
  have others : ∀ entry ∈ Terminal.keywords ++ Terminal.signs ++ Terminal.brackets, entry.2 ≠ .name := by
    decide
  rcases scan_token found with ⟨u, matched, same⟩ | ⟨same, _⟩ | spelled
  · rw [classify_eq_name same.symm] at matched
    exact run?_ends matched
  · cases same
  · exact absurd rfl (others _ spelled)

theorem classify_spelled (accepted : List Terminal) (u : Terminal) (text : List Char) :
    classify accepted u text = u ∨ (String.ofList text, classify accepted u text) ∈
      Terminal.keywords ++ Terminal.signs ++ Terminal.brackets := by
  have reads : ∀ spellings, reading spellings accepted text u = u ∨
      (String.ofList text, reading spellings accepted text u) ∈ spellings := by
    intro spellings
    unfold reading
    split
    · rename_i word t found
      have spelled := List.find?_some found
      simp only [Bool.and_eq_true, beq_iff_eq] at spelled
      rw [← spelled.1, String.ofList_toList]
      exact .inr (List.mem_of_find?_eq_some found)
    · exact .inl rfl
  cases u with
  | name =>
    exact (reads Terminal.keywords).imp_right fun member =>
      List.mem_append_left _ (List.mem_append_left _ member)
  | operator =>
    exact (reads Terminal.signs).imp_right fun member =>
      List.mem_append_left _ (List.mem_append_right _ member)
  | _ => exact .inl rfl

theorem scan_spelling (word : String) (plain : t ∉ .newline :: patterned)
    (only : ∀ entry ∈ Terminal.keywords ++ Terminal.signs ++ Terminal.brackets,
      entry.2 = t → entry.1 = word)
    (found : scan accepted s = some (.token t text, rest)) : text = word.toList := by
  rw [List.mem_cons, not_or] at plain
  have listed : (String.ofList text, t) ∈ Terminal.keywords ++ Terminal.signs ++ Terminal.brackets := by
    rcases scan_token found with ⟨u, matched, same⟩ | ⟨same, _⟩ | spelled
    · rcases classify_spelled accepted u text with kept | spelled
      · have pattern : u ∈ patterned := by
          cases u <;> first | decide | cases matched
        exact absurd ((same.trans kept) ▸ pattern) plain.2
      · exact same ▸ spelled
    · exact absurd same plain.1
    · exact spelled
  rw [← only _ listed rfl, String.toList_ofList]

theorem scan_newline_text (found : scan accepted s = some (.token .newline text, rest)) :
    text = ['\n'] := by
  have others : ∀ entry ∈ Terminal.keywords ++ Terminal.signs ++ Terminal.brackets,
      entry.2 ≠ .newline := by
    decide
  rcases scan_token found with ⟨u, matched, same⟩ | ⟨-, spelled⟩ | spelled
  · rcases classify_spelled accepted u text with kept | spelled
    · rw [kept] at same
      rw [← same] at matched
      cases matched
    · exact absurd same.symm (others _ spelled)
  · exact spelled
  · exact absurd rfl (others _ spelled)

/-! ### Comments below a line -/

namespace Comment

variable {line : Nat} {cs more group : List Comment}

/-- A comment that cannot belong to a group that ends above the line. -/
def Apart (line : Nat) (c : Comment) : Prop :=
  c.standalone = true → line < c.pos.line ∧ c.pos.line ≤ c.endLine

/-- Groups that end right above the line. -/
def endsAbove (line : Nat) (group : List Comment) : Bool := lastLine group + 1 == line

/-- The group gathered so far, if there is one. -/
def gathered (group : List Comment) : List (List Comment) :=
  if group.isEmpty then [] else [group.reverse]

theorem lastLine_reverse (c : Comment) (group : List Comment) : lastLine (c :: group).reverse = c.endLine := by
  simp [lastLine]

theorem groupsFrom_apart (apart : ∀ c ∈ more, c.Apart line) (group : List Comment) :
    (groupsFrom group more).filter (endsAbove line) = (gathered group).filter (endsAbove line) := by
  induction more generalizing group with
  | nil => rfl
  | cons c more ih =>
    have later : ∀ group, (groupsFrom group more).filter (endsAbove line) =
        (gathered group).filter (endsAbove line) := ih fun d listed => apart d (List.mem_cons_of_mem _ listed)
    have below (alone : c.standalone = true) (before : List Comment) :
        (gathered (c :: before)).filter (endsAbove line) = [] := by
      have here := apart c List.mem_cons_self alone
      have other : endsAbove line (c :: before).reverse = false := by
        rw [endsAbove, lastLine_reverse, beq_eq_false_iff_ne]
        omega
      rw [gathered, List.isEmpty_cons, if_neg Bool.false_ne_true, List.filter_singleton, other]
      rfl
    rw [groupsFrom]
    split
    · rw [List.filter_append, later []]
      exact List.append_nil _
    · rename_i alone
      have alone : c.standalone = true := by simpa using alone
      split
      · rw [List.filter_append, later [c], below alone]
        exact List.append_nil _
      · rename_i near
        rw [later (c :: group), below alone]
        -- The comment adjoins the group, so that the group does not end above the line either.
        cases group with
        | nil => rfl
        | cons last group =>
          have here := apart c List.mem_cons_self alone
          have other : endsAbove line (last :: group).reverse = false := by
            simp only [List.head?_cons, Option.any_some, decide_eq_true_eq] at near
            rw [endsAbove, lastLine_reverse, beq_eq_false_iff_ne]
            omega
          rw [gathered, List.isEmpty_cons, if_neg Bool.false_ne_true, List.filter_singleton, other]
          rfl

theorem groupsFrom_append_apart (apart : ∀ c ∈ more, c.Apart line) (cs group : List Comment) :
    (groupsFrom group (cs ++ more)).filter (endsAbove line) =
      (groupsFrom group cs).filter (endsAbove line) := by
  induction cs generalizing group with
  | nil => exact groupsFrom_apart apart group
  | cons c cs ih =>
    rw [List.cons_append, groupsFrom, groupsFrom]
    split
    · rw [List.filter_append, List.filter_append, ih]
    · split
      · rw [List.filter_append, List.filter_append, ih]
      · exact ih _

/-- Comments apart from a line do not document it. -/
theorem above_append (apart : ∀ c ∈ more, c.Apart line) : above (cs ++ more) line = above cs line := by
  have same := groupsFrom_append_apart apart cs []
  have first : ∀ all : List Comment, (groups all).reverse.find? (fun group => lastLine group + 1 == line) =
      ((groups all).filter (endsAbove line)).reverse.head? := by
    intro all
    rw [← List.filter_reverse, List.head?_filter]
    rfl
  rw [above, above, first, first, groups, same]
  rfl

end Comment

/-! ### Readings of a source -/

namespace Parser.Reading

/-- What has been read and what is left make up the source, and the reading counts along. -/
structure Within (source : List Char) (r : Reading) : Prop where
  read : ∃ before, source = before ++ r.rest ∧ r.pos = .behind before ∧
    r.lineBlank = (lineUpTo before).all Text.isBlank
  comments : ∀ c ∈ r.comments, c.Stands source

namespace Within

theorem start (source : List Char) : (Reading.start source).Within source :=
  ⟨⟨[], rfl, rfl, rfl⟩, nofun⟩

theorem move (within : r.Within source) (whole : r.rest = text ++ rest) :
    (r.move text rest).Within source := by
  obtain ⟨before, same, pos, blank⟩ := within.read
  refine ⟨⟨before ++ text, ?_, ?_, ?_⟩, within.comments⟩
  · rw [same, whole, List.append_assoc]
    rfl
  · rw [← Position.behind_after, ← pos]
    rfl
  · rw [← blank_lineUpTo, ← blank]
    rfl

theorem stands (within : r.Within source) (whole : r.rest = text ++ rest) :
    Stands source r.pos (String.ofList text) := by
  obtain ⟨before, same, pos, _⟩ := within.read
  refine ⟨before, rest, ?_, pos⟩
  rw [same, whole, String.toList_ofList, List.append_assoc]

theorem nameStands (within : r.Within source)
    (found : scan accepted r.rest = some (.token .name text, rest)) :
    NameStands source r.pos (String.ofList text) := by
  obtain ⟨before, same, pos, _⟩ := within.read
  refine ⟨before, rest, ?_, pos, (scan_scanned r.pos found).name rfl, scan_breaks found⟩
  rw [same, scan_append found, String.toList_ofList, List.append_assoc]
  rfl

theorem commentAt (within : r.Within source) (whole : r.rest = text ++ rest) :
    (r.commentAt text).Stands source := by
  obtain ⟨before, same, pos, blank⟩ := within.read
  refine ⟨before, rest, ?_, pos, ?_, blank⟩
  · rw [Reading.commentAt, String.toList_ofList, same, whole, List.append_assoc]
  · rw [Reading.commentAt, String.toList_ofList, Position.behind_line, ← pos]

theorem steps (within : r.Within source) (step : r.Steps r') : r'.Within source := by
  cases step with
  | comment found =>
    have whole := scan_append found
    refine Within.move ⟨within.read, fun c listed => ?_⟩ whole
    rcases List.mem_append.mp listed with old | new
    · exact within.comments c old
    · rw [List.mem_singleton.mp new]
      exact within.commentAt whole
  | layout found => exact within.move (scan_append found)
  | token found emitted =>
    rw [emit_same emitted]
    exact Within.move ⟨within.read, within.comments⟩ (scan_append found)
  | ended => exact within

end Within

/-! ### Readings past a line -/

/-- Nothing that is read from here on stands alone on the line or above it. -/
def Past (line : Nat) (r : Reading) : Prop :=
  line < r.pos.line ∨ line = r.pos.line ∧ r.lineBlank = false

theorem line_after (pos : Position) (text : List Char) :
    (pos.after text).line = pos.line + text.count '\n' := by
  induction text generalizing pos with
  | nil => rfl
  | cons c text ih =>
    have step : pos.after (c :: text) =
        (if c = '\n' then ⟨pos.line + 1, 1⟩ else ⟨pos.line, pos.column + 1⟩ : Position).after text := rfl
    rw [step, ih, List.count_cons]
    by_cases line : c = '\n'
    · simp [line]
      omega
    · simp [line]

theorem not_blank_foldl (single : '\n' ∉ text) :
    text.foldl (fun blank c => c == '\n' || (blank && Text.isBlank c)) false = false := by
  induction text with
  | nil => rfl
  | cons c text ih =>
    rw [List.mem_cons, not_or] at single
    have here : (c == '\n' || (false && Text.isBlank c)) = false := by simpa using Ne.symm single.1
    rw [List.foldl_cons, here]
    exact ih single.2

namespace Past

variable {line : Nat}

theorem move (past : r.Past line) (text rest : List Char) : (r.move text rest).Past line := by
  have below : (r.move text rest).pos.line = r.pos.line + text.count '\n' := line_after r.pos text
  by_cases single : '\n' ∈ text
  · have breaks := List.count_pos_iff.mpr single
    left
    rcases past with past | ⟨past, _⟩ <;> omega
  · rcases past with past | ⟨past, filled⟩
    · left
      omega
    · right
      rw [below, List.count_eq_zero_of_not_mem single]
      refine ⟨past, ?_⟩
      show text.foldl _ r.lineBlank = false
      rw [filled]
      exact not_blank_foldl single

theorem of_filled (rest : List Char) (blank : Text.isBlank c = false) (single : '\n' ∉ c :: text) :
    (r.move (c :: text) rest).Past r.pos.line := by
  right
  rw [List.mem_cons, not_or] at single
  have below : (r.move (c :: text) rest).pos.line = r.pos.line + (c :: text).count '\n' :=
    line_after r.pos _
  rw [below, List.count_eq_zero_of_not_mem (by simpa using single)]
  refine ⟨rfl, ?_⟩
  show (c :: text).foldl _ r.lineBlank = false
  have here : (c == '\n' || (r.lineBlank && Text.isBlank c)) = false := by
    simpa [blank] using Ne.symm single.1
  rw [List.foldl_cons, here]
  exact not_blank_foldl single.2

theorem commentAt (past : r.Past line) (text : List Char) : (r.commentAt text).Apart line := by
  intro alone
  have alone : r.lineBlank = true := alone
  rcases past with past | ⟨_, filled⟩
  · exact ⟨past, Nat.le_add_right _ _⟩
  · rw [filled] at alone
    cases alone

theorem steps (past : r.Past line) (step : r.Steps r') :
    r'.Past line ∧ ∃ more, r'.comments = r.comments ++ more ∧ ∀ c ∈ more, c.Apart line := by
  cases step with
  | @comment text rest _ =>
    have moved : Past line { r with comments := r.comments ++ [r.commentAt text] } := past
    refine ⟨moved.move text rest,
      [r.commentAt text], rfl, fun c listed => ?_⟩
    rw [List.mem_singleton.mp listed]
    exact past.commentAt text
  | layout => exact ⟨past.move _ _, [], (List.append_nil _).symm, nofun⟩
  | @token t text rest _ _ emitted =>
    rw [emit_same emitted]
    exact ⟨Past.move past text rest, [], (List.append_nil _).symm, nofun⟩
  | ended => exact ⟨past, [], (List.append_nil _).symm, nofun⟩

/-- The comments that are still to come do not document the line. -/
theorem above_run {fuel : Nat} (past : r.Past line) (ran : r.run fuel = .ok last) :
    Comment.above last.comments line = Comment.above r.comments line := by
  refine (run_keeps (fun s => s.Past line ∧
    Comment.above s.comments line = Comment.above r.comments line) ?_ ⟨past, rfl⟩ ran).2
  rintro s s' ⟨past, same⟩ step
  obtain ⟨past, more, comments, apart⟩ := past.steps step
  rw [comments, Comment.above_append apart]
  exact ⟨past, same⟩

end Past

end Parser.Reading

end Syntax

end GoIdl
