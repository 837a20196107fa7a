import GoIdl.Proofs.Syntax.Endings

/-!
# Texts without comments

A text without its comments has the outline of the text: a comment counts no more than a blank. Nor
does it count more with a line break inside, which is where reading parts from Go's rule that such a
comment acts like a line break.
-/

namespace GoIdl.Syntax

/-! ### Taking comments out -/

/-- A literal between two `mark`s, or what stands on its line if nothing closes it. -/
def quotedPart (mark : Char) (s : List Char) : List Char × List Char :=
  match quotedBody mark s with
  | (body, c :: rest) => if c = mark then (mark :: body ++ [mark], rest) else (mark :: body, c :: rest)
  | (body, []) => (mark :: body, [])

def rawPart (s : List Char) : List Char × List Char :=
  match Text.splitFirst ['`'] s with
  | some (body, rest) => ('`' :: body ++ ['`'], rest)
  | none => ('`' :: s, [])

/-- What a text starts with where no comment does: a literal, a comment that nothing closes, or one
character. -/
def solid : List Char → List Char × List Char
  | [] => ([], [])
  | '/' :: '*' :: rest => ('/' :: '*' :: rest, [])
  | '`' :: rest => rawPart rest
  | '"' :: rest => quotedPart '"' rest
  | '\'' :: rest => quotedPart '\'' rest
  | c :: rest => ([c], rest)

theorem quotedPart_append (mark : Char) (s : List Char) :
    (quotedPart mark s).1 ++ (quotedPart mark s).2 = mark :: s := by
  have whole := quotedBody_append mark s
  unfold quotedPart
  split
  · rename_i found
    rw [found] at whole
    split
    · rename_i closed
      rw [← whole, ← closed]
      simp
    · rw [← whole]
      rfl
  · rename_i found
    rw [found] at whole
    rw [← whole]
    rfl

theorem rawPart_append (s : List Char) : (rawPart s).1 ++ (rawPart s).2 = '`' :: s := by
  unfold rawPart
  split
  · rename_i found
    rw [Text.splitFirst_eq found]
    simp
  · exact List.append_nil _

theorem solid_append (s : List Char) : (solid s).1 ++ (solid s).2 = s := by
  unfold solid
  split
  · rfl
  · exact List.append_nil _
  · exact rawPart_append _
  · exact quotedPart_append _ _
  · exact quotedPart_append _ _
  · rfl

theorem solid_cons (c : Char) (s : List Char) : ∃ more, (solid (c :: s)).1 = c :: more := by
  have filled : (solid (c :: s)).1 ≠ [] := by
    unfold solid
    split
    · rename_i empty
      cases empty
    · exact List.cons_ne_nil _ _
    · unfold rawPart
      split <;> exact List.cons_ne_nil _ _
    · unfold quotedPart
      split
      · split <;> exact List.cons_ne_nil _ _
      · exact List.cons_ne_nil _ _
    · unfold quotedPart
      split
      · split <;> exact List.cons_ne_nil _ _
      · exact List.cons_ne_nil _ _
    · exact List.cons_ne_nil _ _
  obtain ⟨d, more, starts⟩ := List.exists_cons_of_ne_nil filled
  have whole := solid_append (c :: s)
  rw [starts] at whole
  exact ⟨more, by rw [starts, (List.cons.inj whole).1]⟩

/-- A text with a character in place of every comment. -/
def uncommented (instead : List Char → Char) (s : List Char) : List Char :=
  match _ : comment? s with
  | some (text, rest) => instead text :: uncommented instead rest
  | none =>
    match s with
    | [] => []
    | c :: s => (solid (c :: s)).1 ++ uncommented instead (solid (c :: s)).2
termination_by s.length
decreasing_by
  · rename_i found
    have positive := List.length_pos_iff.mpr (comment?_filled found)
    rw [comment?_append found, List.length_append]
    omega
  · obtain ⟨more, starts⟩ := solid_cons c s
    have whole := congrArg List.length (solid_append (c :: s))
    rw [starts, List.length_append, List.length_cons] at whole
    omega

variable {instead : List Char → Char} {s text rest more body word : List Char} {c mark : Char}

@[simp] theorem uncommented_nil : uncommented instead [] = [] := by
  rw [uncommented]
  rfl

theorem uncommented_comment (found : comment? s = some (text, rest)) :
    uncommented instead s = instead text :: uncommented instead rest := by
  rw [uncommented]
  split
  · rename_i same
    rw [found] at same
    cases same
    rfl
  · rename_i none
    rw [found] at none
    cases none

theorem uncommented_solid (none : comment? s = none) :
    uncommented instead s = (solid s).1 ++ uncommented instead (solid s).2 := by
  cases s with
  | nil => simp [solid]
  | cons c s =>
    rw [uncommented]
    split
    · rename_i found
      rw [none] at found
      cases found
    · rfl

/-- The marks that open a literal. -/
def isMark (c : Char) : Bool := c == '`' || c == '"' || c == '\''

theorem uncommented_cons (none : comment? (c :: s) = none) (mark : isMark c = false)
    (opened : c = '/' → s.head? ≠ some '*') :
    uncommented instead (c :: s) = c :: uncommented instead s := by
  have plain : solid (c :: s) = ([c], s) := by
    unfold solid
    split
    · rename_i empty
      cases empty
    · rename_i same
      cases same
      exact absurd rfl (opened rfl)
    · rename_i same
      cases same
      cases mark
    · rename_i same
      cases same
      cases mark
    · rename_i same
      cases same
      cases mark
    · rename_i same
      cases same
      rfl
  rw [uncommented_solid none, plain]
  rfl

/-- A character that opens neither a comment nor a literal. -/
def isPlain (c : Char) : Bool := c != '/' && !isMark c

theorem uncommented_plain (plain : isPlain c = true) :
    uncommented instead (c :: s) = c :: uncommented instead s := by
  simp only [isPlain, Bool.and_eq_true, bne_iff_ne, Bool.not_eq_true'] at plain
  exact uncommented_cons (comment?_eq_none plain.1) plain.2 fun slash => absurd slash plain.1

theorem uncommented_append (plain : ∀ c ∈ text, isPlain c = true) :
    uncommented instead (text ++ rest) = text ++ uncommented instead rest := by
  induction text with
  | nil => rfl
  | cons c text ih =>
    rw [List.cons_append, uncommented_plain (plain c List.mem_cons_self),
      ih fun d inside => plain d (List.mem_cons_of_mem _ inside)]
    rfl

theorem comment?_of_not (other : c = '/' → ∀ d ∈ s.head?, d ≠ '/' ∧ d ≠ '*') :
    comment? (c :: s) = none := by
  unfold comment?
  split
  · rename_i same
    cases same
    exact absurd rfl (other rfl '/' rfl).1
  · rename_i same
    cases same
    exact absurd rfl (other rfl '*' rfl).2
  · rfl

theorem uncommented_head (instead : List Char → Char) (none : comment? (c :: s) = none) :
    ∃ more, uncommented instead (c :: s) = c :: more := by
  obtain ⟨more, starts⟩ := solid_cons c s
  exact ⟨more ++ uncommented instead (solid (c :: s)).2, by rw [uncommented_solid none, starts]; rfl⟩

/-! ### Literals -/

theorem quotedBody_stops (mark : Char) (s : List Char) :
    quotedBody mark (quotedBody mark s).2 = ([], (quotedBody mark s).2) := by
  fun_induction quotedBody mark s with
  | case1 rest => simp [quotedBody]
  | case2 c rest _ body rest' ended ih => rwa [ended] at ih
  | case3 c rest single stop =>
    rw [quotedBody, if_pos stop]
    exact single
  | case4 c rest _ _ body rest' ended ih => rwa [ended] at ih
  | case5 => rfl

/-- A body goes as far as before, whatever stops it there. -/
theorem quotedBody_again (stops : quotedBody mark more = ([], more)) (s : List Char) :
    quotedBody mark ((quotedBody mark s).1 ++ more) = ((quotedBody mark s).1, more) := by
  fun_induction quotedBody mark s with
  | case1 | case3 | case5 => exact stops
  | case2 c rest other body rest' ended ih =>
    rw [ended] at ih
    simp [quotedBody, other, ih]
  | case4 c rest _ other body rest' ended ih =>
    rw [ended] at ih
    rw [List.cons_append, quotedBody, ih, if_neg other]
    exact fun _ _ escape => absurd (.inr (.inl escape)) other

/-- What stops a body without closing it is no comment, nor is it before one. -/
theorem quotedBody_uncommented (instead : List Char → Char) (stops : quotedBody mark rest = ([], rest))
    (opened : rest.head? ≠ some mark) :
    quotedBody mark (uncommented instead rest) = ([], uncommented instead rest) ∧
      (uncommented instead rest).head? ≠ some mark := by
  cases rest with
  | nil => exact ⟨by simp [quotedBody], by simp⟩
  | cons c rest =>
    have other : c ≠ mark := fun same => opened (congrArg some same)
    have stop : c = '\\' ∨ c = '\n' := by
      by_contra goes
      rw [not_or] at goes
      rw [quotedBody, if_neg (by simp [other, goes])] at stops
      · cases stops
      · exact fun _ _ escape => absurd escape goes.1
    rcases stop with rfl | rfl
    · rw [uncommented_plain (by decide)]
      refine ⟨?_, by simpa using other⟩
      cases rest with
      | nil => simp [quotedBody]
      | cons d rest =>
        have lineEnd : d = '\n' := by
          by_contra goes
          rw [quotedBody, if_neg goes] at stops
          cases stops
        subst lineEnd
        rw [uncommented_plain (by decide)]
        simp [quotedBody]
    · rw [uncommented_plain (by decide)]
      exact ⟨by simp [quotedBody], by simpa using other⟩

abbrev Match.uncommented (instead : List Char → Char) (found : List Char × List Char) :
    List Char × List Char :=
  (found.1, Syntax.uncommented instead found.2)

theorem quotedLiteral?_uncommented (quotes : mark = '"' ∨ mark = '\'') (none : comment? s = none) :
    quotedLiteral? mark (uncommented instead s) =
      (quotedLiteral? mark s).map (Match.uncommented instead) := by
  cases s with
  | nil => simp [quotedLiteral?]
  | cons c s =>
    by_cases opens : c = mark
    · subst opens
      have part : solid (c :: s) = quotedPart c s := by
        rcases quotes with rfl | rfl <;> rfl
      have stops := quotedBody_stops c s
      have again : ∀ more, quotedBody c more = ([], more) →
          quotedBody c ((quotedBody c s).1 ++ more) = ((quotedBody c s).1, more) :=
        fun _ stops => quotedBody_again stops s
      rw [uncommented_solid none, part, quotedPart]
      cases found : quotedBody c s with
      | mk body rest =>
        rw [found] at stops again
        cases rest with
        | nil =>
          -- The text ends before the literal does.
          have same := again [] (by simp [quotedBody])
          rw [List.append_nil] at same
          simp [quotedLiteral?, found, same]
        | cons d rest =>
          by_cases closed : d = c
          · subst closed
            have stop : quotedBody d (d :: uncommented instead rest) =
                ([], d :: uncommented instead rest) := by
              rcases quotes with rfl | rfl <;> simp [quotedBody]
            have same := again _ stop
            simp [quotedLiteral?, found, same]
          · -- The line ends before the literal does, also without the comments behind it.
            obtain ⟨stop, other⟩ := quotedBody_uncommented instead stops
              (by simpa using closed)
            have same := again _ stop
            simp only [quotedLiteral?, found, if_neg closed, List.cons_append, same, if_true]
            cases after : uncommented instead (d :: rest) with
            | nil => rfl
            | cons e more =>
              rw [after] at other
              have unclosed : e ≠ c := by simpa using other
              simp [unclosed]
    · obtain ⟨more, starts⟩ := uncommented_head instead none
      rw [starts, quotedLiteral?_eq_none opens, quotedLiteral?_eq_none opens]
      rfl

theorem splitFirst_again (found : Text.splitFirst [mark] s = some (body, rest)) (more : List Char) :
    Text.splitFirst [mark] (body ++ mark :: more) = some (body, more) := by
  induction s generalizing body with
  | nil => cases found
  | cons c s ih =>
    unfold Text.splitFirst at found
    split at found
    · cases found
      simp [Text.splitFirst]
    · rename_i other
      obtain ⟨⟨inside, after⟩, later, same⟩ := Option.map_eq_some_iff.mp found
      cases same
      have differs : ¬ ([mark].isPrefixOf (c :: (inside ++ mark :: more))) = true := by
        simpa using other
      rw [List.cons_append, Text.splitFirst, if_neg differs, ih later]
      rfl

theorem rawLiteral?_uncommented (none : comment? s = none) :
    rawLiteral? (uncommented instead s) = (rawLiteral? s).map (Match.uncommented instead) := by
  cases s with
  | nil => simp [rawLiteral?]
  | cons c s =>
    by_cases opens : c = '`'
    · subst opens
      -- A literal that nothing closes takes the whole text, so no comment goes.
      rw [uncommented_solid none, show solid ('`' :: s) = rawPart s from rfl, rawPart]
      cases found : Text.splitFirst ['`'] s with
      | none => simp [rawLiteral?, found]
      | some parts =>
        obtain ⟨body, rest⟩ := parts
        simp [rawLiteral?, found, splitFirst_again found]
    · obtain ⟨more, starts⟩ := uncommented_head instead none
      rw [starts, rawLiteral?_eq_none opens, rawLiteral?_eq_none opens]
      rfl

/-! ### Runs -/

/-- A comment gives way to a blank or to a line break. -/
def Blanking (instead : List Char → Char) : Prop := ∀ text, instead text = ' ' ∨ instead text = '\n'

/-- A kind of characters without blanks, line breaks and what opens a comment or a literal. -/
def isSolid (kind : Char → Bool) : Bool := [' ', '\n', '/', '`', '"', '\''].all fun c => !kind c

/-- A plain character that stands for no comment. -/
def isLetter (c : Char) : Bool := isPlain c && c != ' ' && c != '\n'

variable (blanking : Blanking instead) {kind first : Char → Bool}

theorem plain_of_isSolid (solid : isSolid kind = true) (held : kind c = true) : isPlain c = true := by
  simp only [isSolid, List.all_cons, Bool.and_eq_true, Bool.not_eq_true'] at solid
  have other : ∀ d, kind d = false → c ≠ d := by
    rintro d without rfl
    rw [held] at without
    cases without
  obtain ⟨-, -, slash, raw, quote, rune, -⟩ := solid
  simp [isPlain, isMark, other _ slash, other _ raw, other _ quote, other _ rune]

include blanking

theorem uncommented_starts (c : Char) (s : List Char) :
    ∃ d more, uncommented instead (c :: s) = d :: more ∧
      (d = c ∨ c = '/' ∧ (d = ' ' ∨ d = '\n')) := by
  cases found : comment? (c :: s) with
  | none =>
    obtain ⟨more, starts⟩ := uncommented_head instead found
    exact ⟨c, more, starts, .inl rfl⟩
  | some parts =>
    have slash : c = '/' := by
      by_contra other
      rw [comment?_eq_none other] at found
      cases found
    exact ⟨_, _, uncommented_comment found, .inr ⟨slash, blanking _⟩⟩

theorem uncommented_stops (solid : isSolid kind = true) (stops : kind c = false) (s : List Char) :
    ∃ d more, uncommented instead (c :: s) = d :: more ∧ kind d = false := by
  simp only [isSolid, List.all_cons, Bool.and_eq_true, Bool.not_eq_true'] at solid
  obtain ⟨d, more, starts, rfl | ⟨-, rfl | rfl⟩⟩ := uncommented_starts blanking c s
  · exact ⟨_, more, starts, stops⟩
  · exact ⟨_, more, starts, solid.1⟩
  · exact ⟨_, more, starts, solid.2.1⟩

theorem span_uncommented (solid : isSolid kind = true) (s : List Char) :
    (uncommented instead s).span kind = Match.uncommented instead (s.span kind) := by
  rw [List.span_eq_takeWhile_dropWhile, List.span_eq_takeWhile_dropWhile]
  induction s with
  | nil => simp
  | cons c s ih =>
    by_cases held : kind c = true
    · rw [uncommented_plain (plain_of_isSolid solid held), List.takeWhile_cons_of_pos held,
        List.dropWhile_cons_of_pos held, (Prod.mk.inj ih).1, (Prod.mk.inj ih).2,
        List.takeWhile_cons_of_pos held, List.dropWhile_cons_of_pos held]
    · have without : kind c = false := by simpa using held
      obtain ⟨d, more, starts, stops⟩ := uncommented_stops blanking solid without s
      have other : ¬ kind d = true := by simp [stops]
      rw [List.takeWhile_cons_of_neg held, List.dropWhile_cons_of_neg held, starts,
        List.takeWhile_cons_of_neg other, List.dropWhile_cons_of_neg other, Match.uncommented, starts]

theorem run?_uncommented (start : isSolid first = true) (solid : isSolid kind = true) (s : List Char) :
    run? first kind (uncommented instead s) =
      (run? first kind s).map (Match.uncommented instead) := by
  cases s with
  | nil => simp [run?]
  | cons c s =>
    by_cases held : first c = true
    · rw [uncommented_plain (plain_of_isSolid start held), run?, run?, if_pos held, if_pos held,
        span_uncommented blanking solid]
      rfl
    · have without : first c = false := by simpa using held
      obtain ⟨d, more, starts, stops⟩ := uncommented_stops blanking start without s
      rw [starts, run?_eq_none stops, run?_eq_none without]
      rfl

/-! ### Operators -/

theorem operatorRun_comment (found : comment? s = some (text, rest)) :
    operatorRun (uncommented instead s) = ([], uncommented instead s) := by
  rw [uncommented_comment found]
  rcases blanking text with blank | blank <;> rw [blank] <;>
    exact operatorRun_of_not (by decide) (by decide)

theorem slash_uncommented (other : ∀ d ∈ s.head?, d ≠ '/' ∧ d ≠ '*') :
    ∀ d ∈ (uncommented instead s).head?, d ≠ '/' ∧ d ≠ '*' := by
  cases s with
  | nil => simp
  | cons e s =>
    obtain ⟨d, more, starts, rfl | ⟨-, rfl | rfl⟩⟩ := uncommented_starts blanking e s
    · rw [starts]
      exact fun c first => other c first
    · rw [starts]
      simp
    · rw [starts]
      simp

theorem operatorRun_uncommented (s : List Char) :
    operatorRun (uncommented instead s) = Match.uncommented instead (operatorRun s) := by
  fun_induction operatorRun s with
  | case1 => simp [operatorRun]
  | case2 rest => exact operatorRun_comment blanking rfl
  | case3 rest =>
    cases found : comment? ('/' :: '*' :: rest) with
    | some parts => exact operatorRun_comment blanking found
    | none =>
      rw [uncommented_solid found, show solid ('/' :: '*' :: rest) = ('/' :: '*' :: rest, []) from rfl,
        uncommented_nil, List.append_nil, Match.uncommented, uncommented_solid found]
      simp [solid, operatorRun]
  | case4 c rest line block sign run rest' ended ih =>
    rw [ended] at ih
    have other : c = '/' → ∀ d ∈ rest.head?, d ≠ '/' ∧ d ≠ '*' := by
      intro slash d first
      obtain ⟨more, rfl⟩ := List.head?_eq_some_iff.mp first
      refine ⟨?_, ?_⟩
      · rintro rfl
        exact line more slash rfl
      · rintro rfl
        exact block more slash rfl
    have mark : isMark c = false := by
      by_contra marked
      simp only [isMark, Bool.not_eq_false, Bool.or_eq_true, beq_iff_eq] at marked
      rcases marked with (rfl | rfl) | rfl <;> exact absurd sign (by decide)
    have further := fun slash => slash_uncommented blanking (other slash)
    rw [uncommented_cons (comment?_of_not other) mark fun slash star => (other slash _ star).2 rfl,
      operatorRun, ih, if_pos sign]
    · intro more slash same
      exact (further slash '/' (by simp [same])).1 rfl
    · intro more slash same
      exact (further slash '*' (by simp [same])).2 rfl
  | case5 c rest line block sign =>
    rw [not_or] at sign
    obtain ⟨more, starts⟩ := uncommented_head instead (comment?_eq_none sign.1)
    rw [Match.uncommented, starts]
    exact operatorRun_of_not sign.1 (by simpa using sign.2)

theorem pattern?_uncommented (none : comment? s = none) (t : Terminal) :
    pattern? t (uncommented instead s) = (pattern? t s).map (Match.uncommented instead) := by
  cases t with
  | operator =>
    rw [pattern?, pattern?, operatorRun_uncommented blanking]
    obtain ⟨run, rest⟩ := operatorRun s
    cases run <;> rfl
  | number => exact run?_uncommented blanking (by decide) (by decide) s
  | name => exact run?_uncommented blanking (by decide) (by decide) s
  | string => exact quotedLiteral?_uncommented (.inl rfl) none
  | rune =>
    rw [pattern?, pattern?, quotedLiteral?_uncommented (.inr rfl) none]
    cases quotedLiteral? '\'' s with
    | none => rfl
    | some found =>
      obtain ⟨text, rest⟩ := found
      by_cases long : 2 < text.length <;> simp [Option.filter, long]
  | rawString => exact rawLiteral?_uncommented none
  | _ => rfl

/-! ### Scanning -/

theorem comment?_uncommented (none : comment? s = none) :
    comment? (uncommented instead s) = Option.none := by
  cases s with
  | nil => simp [comment?]
  | cons c s =>
    by_cases open' : c = '/' ∧ s.head? = some '*'
    · -- Nothing closes the comment, so the text stays as it is.
      obtain ⟨rfl, star⟩ := open'
      obtain ⟨more, rfl⟩ := List.head?_eq_some_iff.mp star
      rw [uncommented_solid none, show solid ('/' :: '*' :: more) = ('/' :: '*' :: more, []) from rfl,
        uncommented_nil, List.append_nil, none]
    · by_cases slash : c = '/'
      · subst slash
        have other : ∀ d ∈ s.head?, d ≠ '/' ∧ d ≠ '*' := by
          intro d first
          obtain ⟨more, rfl⟩ := List.head?_eq_some_iff.mp first
          refine ⟨?_, ?_⟩
          · rintro rfl
            cases none
          · rintro rfl
            exact open' ⟨rfl, rfl⟩
        rw [uncommented_cons none (by decide) fun _ star => (other _ star).2 rfl]
        exact comment?_of_not fun _ => slash_uncommented blanking other
      · obtain ⟨more, starts⟩ := uncommented_head instead none
        rw [starts, comment?_eq_none slash]

theorem isPrefixOf_uncommented (letters : word.all isLetter = true) (s : List Char) :
    word.isPrefixOf (uncommented instead s) = word.isPrefixOf s := by
  induction word generalizing s with
  | nil => rw [List.isPrefixOf_nil_left, List.isPrefixOf_nil_left]
  | cons d word ih =>
    simp only [List.all_cons, isLetter, Bool.and_eq_true, bne_iff_ne] at letters
    obtain ⟨⟨⟨plain, blank⟩, lineBreak⟩, others⟩ := letters
    cases s with
    | nil => rw [uncommented_nil]
    | cons c s =>
      by_cases same : d = c
      · subst same
        rw [uncommented_plain plain, List.isPrefixOf_cons_cons, List.isPrefixOf_cons_cons, ih others]
      · obtain ⟨e, more, starts, first⟩ := uncommented_starts blanking c s
        have other : d ≠ e := by
          rcases first with rfl | ⟨-, rfl | rfl⟩
          · exact same
          · exact blank
          · exact lineBreak
        rw [starts, List.isPrefixOf_cons_cons, List.isPrefixOf_cons_cons, beq_false_of_ne other,
          beq_false_of_ne same, Bool.false_and, Bool.false_and]

theorem spelled_uncommented (accepted : List Terminal) (s : List Char) :
    ((spelled accepted).findSome? fun (word, t) =>
      if word.toList.isPrefixOf (uncommented instead s) then
        some (Lexeme.token t word.toList, (uncommented instead s).drop word.toList.length)
      else none) = ((spelled accepted).findSome? fun (word, t) =>
        if word.toList.isPrefixOf s then
          some (Lexeme.token t word.toList, s.drop word.toList.length)
        else none).map fun (lexeme, rest) => (lexeme, uncommented instead rest) := by
  have spelt : ∀ entry ∈ Terminal.keywords ++ Terminal.signs ++ Terminal.brackets,
      entry.1.toList.all isLetter = true := by
    decide
  have accepts : ∀ entry ∈ spelled accepted, entry.1.toList.all isLetter = true :=
    fun entry member => spelt entry (mem_of_spelled member)
  generalize spelled accepted = entries at accepts
  induction entries with
  | nil => rfl
  | cons entry entries ih =>
    obtain ⟨word, t⟩ := entry
    have letters := accepts _ List.mem_cons_self
    have plain : ∀ c ∈ word.toList, isPlain c = true := by
      intro c inside
      have letter := List.all_eq_true.mp letters c inside
      simp only [isLetter, Bool.and_eq_true] at letter
      exact letter.1.1
    rw [List.findSome?_cons, List.findSome?_cons]
    dsimp only at letters ⊢
    rw [isPrefixOf_uncommented blanking letters]
    by_cases starts : word.toList.isPrefixOf s = true
    · rw [if_pos starts, if_pos starts]
      obtain ⟨rest, rfl⟩ := List.isPrefixOf_iff_prefix.mp starts
      rw [uncommented_append plain, List.drop_left, List.drop_left]
      rfl
    · rw [if_neg starts, if_neg starts]
      exact ih fun entry member => accepts entry (List.mem_cons_of_mem _ member)

theorem scan_uncommented (accepted : List Terminal) (none : comment? (c :: s) = none)
    (layout : isLayout c = false) :
    scan accepted (uncommented instead (c :: s)) =
      (scan accepted (c :: s)).map fun (lexeme, rest) => (lexeme, uncommented instead rest) := by
  by_cases lineBreak : c = '\n'
  · subst lineBreak
    rw [uncommented_plain (by decide), scan_lineBreak, scan_lineBreak]
    rfl
  have none' := comment?_uncommented blanking none
  have patterns : ((patterned.filter accepted.contains).findSome? fun t =>
      (pattern? t (uncommented instead (c :: s))).map (t, ·)) =
        ((patterned.filter accepted.contains).findSome? fun t =>
          (pattern? t (c :: s)).map (t, ·)).map fun found =>
            (found.1, Match.uncommented instead found.2) := by
    rw [List.map_findSome?]
    refine congrArg (fun f => List.findSome? f _) (funext fun t => ?_)
    rw [pattern?_uncommented blanking none, Function.comp_apply, Option.map_map, Option.map_map]
    rfl
  obtain ⟨more, starts⟩ := uncommented_head instead none
  unfold scan
  rw [none, none']
  dsimp only
  rw [patterns]
  cases (patterned.filter accepted.contains).findSome? fun t => (pattern? t (c :: s)).map (t, ·) with
  | some found => rfl
  | none =>
    have words := spelled_uncommented blanking accepted (c :: s)
    rw [starts] at words ⊢
    rw [run?_eq_none layout, run?_eq_none layout]
    dsimp only [Option.map_none]
    split
    · rename_i same
      exact absurd (List.cons.inj same).1 lineBreak
    · split
      · rename_i same
        exact absurd (List.cons.inj same).1 lineBreak
      · exact words

end GoIdl.Syntax
