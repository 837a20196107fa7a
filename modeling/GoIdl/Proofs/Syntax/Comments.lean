import GoIdl.Proofs.Syntax.Semicolons
import GoIdl.Proofs.Syntax.Uncommenting

/-!
# What comments stand for

A text has the same outline without its comments. Go reads a comment that contains a line break like
a line break; so does the outline, except after a token that ends a statement when more than blanks
and comments follows on the line.
-/

namespace GoIdl.Syntax

/-- Nothing but blanks and comments before the next line break, or the end of the text. -/
inductive EndsLine : List Char → Prop where
  | ended : EndsLine []
  | lineBreak (s : List Char) : EndsLine ('\n' :: s)
  | blank {c : Char} {s : List Char} (layout : isLayout c = true) (later : EndsLine s) : EndsLine (c :: s)
  | comment {s text rest : List Char} (found : comment? s = some (text, rest)) (later : EndsLine rest) :
    EndsLine s

namespace Parser.Reading

variable {r q : Reading} {s text rest : List Char} {c : Char} {t : Token} {instead : List Char → Char}

/-! ### Line breaks -/

theorem feed_rest (r : Reading) (t : Token) (rest : List Char) :
    ({ r with rest }.feed t).toOption = (r.feed t).toOption.map fun r => { r with rest } := by
  unfold Reading.feed
  dsimp only
  split <;> rfl

theorem emit_rest (r : Reading) (t : Token) (rest : List Char) :
    ({ r with rest }.emit t).toOption = (r.emit t).toOption.map fun r => { r with rest } := by
  unfold Reading.emit
  dsimp only
  split
  · exact feed_rest r _ rest
  · rfl

theorem ends_lineBreak (r : Reading) (rest : List Char) :
    { r with rest := '\n' :: rest }.ends =
      (r.emit ⟨.newline, "\n", r.pos⟩).toOption.bind fun after => { after with rest }.ends := by
  have read := ends_token (r := { r with rest := '\n' :: rest }) scan_lineBreak
  rw [emit_rest, Option.bind_map] at read
  exact read

theorem ends_dropped (open' : r.last.any Token.endsStatement = false) (rest : List Char) :
    { r with rest := '\n' :: rest }.ends = { r with rest }.ends := by
  have dropped : r.emit ⟨.newline, "\n", r.pos⟩ = .ok r := by
    simp [Reading.emit, afterToken, open']
  rw [ends_lineBreak, dropped]
  rfl

theorem ends_closed (closes : r.last.any Token.endsStatement = true) (rest : List Char) :
    { r with rest := '\n' :: rest }.ends =
      (r.feed (semicolonAt r.pos)).toOption.bind fun after => { after with rest }.ends := by
  have stands : r.emit ⟨.newline, "\n", r.pos⟩ = r.feed (semicolonAt r.pos) := by
    simp [Reading.emit, afterToken, closes]
  rw [ends_lineBreak, stands]

theorem ends_closed_nil (r : Reading) (closes : r.last.any Token.endsStatement = true) :
    (r.feed (semicolonAt r.pos)).toOption.bind (fun after => { after with rest := [] }.ends) =
      { r with rest := [] }.ends := by
  obtain ⟨last, known, ends⟩ := (Option.any_eq_true _ _).mp closes
  let bare : Reading := { r with rest := [] }
  have finished : bare.finish =
      (bare.feed (semicolonAt last.pos)).bind fun after => after.feed after.endToken := by
    have closing : atEnd bare.last = some (semicolonAt last.pos) := by
      simp [bare, atEnd, known, Option.filter, ends]
    unfold Reading.finish
    rw [closing]
    rfl
  have after : ∀ q, bare.feed (semicolonAt r.pos) = .ok q →
      q.ends = (shown (q.feed q.endToken)).bind result := by
    intro q fed
    have empty : q.rest = [] := by rw [feed_same fed]
    have open' : atEnd q.last = none := by
      rw [feed_last fed]
      rfl
    rw [ends_nil empty]
    unfold Reading.finish
    rw [open']
    rfl
  have fed : (bare.feed (semicolonAt r.pos)).toOption =
      (r.feed (semicolonAt r.pos)).toOption.map fun after => { after with rest := [] } :=
    feed_rest r (semicolonAt r.pos) []
  calc (r.feed (semicolonAt r.pos)).toOption.bind (fun after => { after with rest := [] }.ends)
      = (bare.feed (semicolonAt r.pos)).toOption.bind Reading.ends := by
        rw [fed, Option.bind_map]
        rfl
    _ = (shown ((bare.feed (semicolonAt r.pos)).bind fun after => after.feed after.endToken)).bind
          result := by
        cases fed : bare.feed (semicolonAt r.pos) with
        | error => rfl
        | ok q => exact after q fed
    _ = (shown bare.finish).bind result := by
        have same : shown (bare.feed (semicolonAt r.pos)) = shown (bare.feed (semicolonAt last.pos)) :=
          feed_congr rfl rfl
        have ended : ∀ p q : Reading, p.outline = q.outline →
            shown (p.feed p.endToken) = shown (q.feed q.endToken) := fun _ _ same => feed_congr same rfl
        rw [finished, shown_bind same ended]
    _ = bare.ends := (ends_nil rfl).symm

/-- Before a line break, or the end of the text, a further line break does not count. -/
theorem ends_doubled (line : EndsLine s) (r : Reading) :
    { r with rest := '\n' :: s }.ends = { r with rest := s }.ends := by
  cases closes : r.last.any Token.endsStatement with
  | false => exact ends_dropped closes s
  | true =>
    rw [ends_closed closes]
    -- The semicolon comes early; what follows up to the end of the line is nothing to it.
    induction line with
    | ended => exact ends_closed_nil r closes
    | lineBreak s =>
      rw [ends_closed closes]
      cases fed : r.feed (semicolonAt r.pos) with
      | error => rfl
      | ok after =>
        have open' : after.last.any Token.endsStatement = false := by
          rw [feed_last fed]
          rfl
        exact ends_dropped open' s
    | blank layout later ih =>
      rw [ends_blank layout, ← ih]
      simp only [ends_blank layout]
    | @comment s text rest found later ih =>
      rw [ends_comment (r := { r with rest := s }) found, ← ih]
      refine congrArg _ (funext fun after => ?_)
      exact ends_comment (r := { after with rest := s }) found

/-! ### Reading without comments -/

theorem ends_layouts (layout : ∀ c ∈ text, isLayout c = true) :
    { r with rest := text ++ rest }.ends = { r with rest }.ends := by
  induction text with
  | nil => rfl
  | cons c text ih =>
    rw [List.cons_append, ends_blank (layout c List.mem_cons_self),
      ih fun d inside => layout d (List.mem_cons_of_mem _ inside)]

/-- Where a line break may stand for a comment: after a token that ends no statement, or where the
line ends anyway. -/
def MayBreak (last : Option Token) (rest : List Char) : Prop :=
  last.any Token.endsStatement = true → EndsLine rest

/-- Every comment that is reached gives way to a blank, or to a line break where one may stand. -/
def Gives (instead : List Char → Char) (r : Reading) : Prop :=
  ∀ q, r.Leads q → ∀ text rest, comment? q.rest = some (text, rest) →
    instead text = ' ' ∨ instead text = '\n' ∧ MayBreak q.last rest

end Parser.Reading

theorem isPlain_of_isLayout {c : Char} (layout : isLayout c = true) : isPlain c = true := by
  simp only [isLayout, Bool.or_eq_true, beq_iff_eq] at layout
  rcases layout with ((rfl | rfl) | rfl) | rfl <;> decide

theorem endsLine_uncommented {instead : List Char → Char} {s : List Char} (blanking : Blanking instead)
    (line : EndsLine s) : EndsLine (uncommented instead s) := by
  induction line with
  | ended => rw [uncommented_nil]; exact .ended
  | lineBreak s => rw [uncommented_plain (by decide)]; exact .lineBreak _
  | blank layout later ih =>
    rw [uncommented_plain (isPlain_of_isLayout layout)]
    exact .blank layout ih
  | @comment s text rest found later ih =>
    rw [uncommented_comment found]
    rcases blanking text with blank | lineBreak
    · rw [blank]
      exact .blank (by decide) ih
    · rw [lineBreak]
      exact .lineBreak _

theorem scan_solid {accepted : List Terminal} {c : Char} {s rest : List Char} {lexeme : Lexeme}
    (none : comment? (c :: s) = none) (layout : isLayout c = false)
    (found : scan accepted (c :: s) = some (lexeme, rest)) : ∃ t text, lexeme = .token t text := by
  unfold scan at found
  rw [none] at found
  dsimp only at found
  split at found
  · cases found
    exact ⟨_, _, rfl⟩
  · rw [run?_eq_none layout] at found
    dsimp only at found
    split at found
    · cases found
      exact ⟨_, _, rfl⟩
    · obtain ⟨⟨word, u⟩, -, read⟩ := List.exists_of_findSome?_eq_some found
      dsimp only at read
      split at read <;> cases read
      exact ⟨_, _, rfl⟩

namespace Parser.Reading

variable {r q : Reading} {instead : List Char → Char}

theorem Gives.next (gives : r.Gives instead) (filled : r.rest ≠ []) (stepped : r.step = .ok q) :
    q.Gives instead :=
  fun last leads => gives last (.step (step_shorter filled stepped) stepped leads)

/-- Behind the next step the comments do not count. The step leads to `q`, and `a` differs from it in
nothing that counts. -/
def Onwards (instead : List Char → Char) (r : Reading) : Prop :=
  ∀ q a : Reading, r.step = .ok q → q.outline = { a with rest := q.rest }.outline →
    { a with rest := uncommented instead q.rest }.ends = { a with rest := q.rest }.ends

theorem ends_at_comment {text rest : List Char} (blanking : Blanking instead) (onwards : r.Onwards instead)
    (found : comment? r.rest = some (text, rest))
    (gives : instead text = ' ' ∨ instead text = '\n' ∧ MayBreak r.last rest) :
    { r with rest := uncommented instead r.rest }.ends = r.ends := by
  have stepped : r.step =
      .ok ({ r with comments := r.comments ++ [r.commentAt text] }.move text rest) := by
    unfold Reading.step
    rw [scan_comment _ found]
  have same : { r with rest := uncommented instead rest }.ends = r.ends := by
    rw [ends_comment found]
    exact onwards _ r stepped rfl
  rw [uncommented_comment found, ← same]
  rcases gives with blank | ⟨lineBreak, may⟩
  · rw [blank]
    exact ends_blank (by decide)
  · rw [lineBreak]
    cases closes : r.last.any Token.endsStatement with
    | false => exact ends_dropped closes _
    | true => exact ends_doubled (endsLine_uncommented blanking (may closes)) r

theorem ends_at_layout {c : Char} {s : List Char} (onwards : r.Onwards instead) (whole : r.rest = c :: s)
    (layout : isLayout c = true) : { r with rest := uncommented instead r.rest }.ends = r.ends := by
  have stepped : r.step = .ok (r.move (c :: s.takeWhile isLayout) (s.dropWhile isLayout)) := by
    unfold Reading.step
    rw [whole, scan_layout layout]
  have blanks : ∀ d ∈ c :: s.takeWhile isLayout, isLayout d = true := by
    intro d inside
    rcases List.mem_cons.mp inside with rfl | inside
    · exact layout
    · exact List.mem_takeWhile_imp inside
  have split : r.rest = (c :: s.takeWhile isLayout) ++ s.dropWhile isLayout := by
    rw [whole, List.cons_append, List.takeWhile_append_dropWhile]
  have same : { r with rest := uncommented instead (s.dropWhile isLayout) }.ends =
      { r with rest := s.dropWhile isLayout }.ends :=
    onwards _ r stepped rfl
  calc { r with rest := uncommented instead r.rest }.ends
      = { r with rest := uncommented instead (s.dropWhile isLayout) }.ends := by
        rw [split, uncommented_append fun d inside => isPlain_of_isLayout (blanks d inside),
          ends_layouts blanks]
    _ = { r with rest := s.dropWhile isLayout }.ends := same
    _ = r.ends := by rw [← ends_layouts blanks, ← split]

theorem ends_at_token {c : Char} {s : List Char} (blanking : Blanking instead) (onwards : r.Onwards instead)
    (whole : r.rest = c :: s) (none : comment? (c :: s) = none) (layout : isLayout c = false) :
    { r with rest := uncommented instead r.rest }.ends = r.ends := by
  have scanned' := scan_uncommented blanking r.mode.expects none layout
  obtain ⟨more, starts⟩ := uncommented_head instead none
  rw [← whole] at scanned' starts
  cases scanned : scan r.mode.expects r.rest with
  | none =>
    rw [scanned] at scanned'
    rw [ends_stuck (by simp [whole]) scanned]
    exact ends_stuck (r := { r with rest := uncommented instead r.rest }) (by simp [starts]) scanned'
  | some parts =>
    obtain ⟨lexeme, rest⟩ := parts
    obtain ⟨t, text, rfl⟩ := scan_solid none layout (whole ▸ scanned)
    rw [scanned] at scanned'
    rw [ends_token (r := { r with rest := uncommented instead r.rest }) scanned', ends_token scanned,
      emit_rest, Option.bind_map]
    cases emitted : r.emit ⟨t, String.ofList text, r.pos⟩ with
    | error => rfl
    | ok after =>
      have stepped : r.step = .ok (after.move text rest) := by
        unfold Reading.step
        rw [scanned]
        dsimp only
        rw [emitted]
        rfl
      exact onwards _ after stepped rfl

theorem ends_uncommented (blanking : Blanking instead) (gives : r.Gives instead) :
    { r with rest := uncommented instead r.rest }.ends = r.ends := by
  -- The induction is on the length of the text: a step takes the same lexeme off both texts.
  induction length : r.rest.length using Nat.strong_induction_on generalizing r with
  | h n ih =>
    cases whole : r.rest with
    | nil => rw [uncommented_nil, ← whole]
    | cons c s =>
      have filled : r.rest ≠ [] := by simp [whole]
      have onwards : r.Onwards instead := by
        intro q a stepped same
        have shorter := step_shorter filled stepped
        have bare : { q with rest := uncommented instead q.rest }.outline =
            { a with rest := uncommented instead q.rest }.outline :=
          congrArg (fun r : Reading => { r with rest := uncommented instead q.rest }) same
        rw [← ends_congr bare, ← ends_congr same]
        exact ih _ (length ▸ shorter) (gives.next filled stepped) rfl
      rw [← whole]
      cases found : comment? (c :: s) with
      | some parts =>
        rw [← whole] at found
        exact ends_at_comment blanking onwards found (gives r (.refl r) _ _ found)
      | none =>
        cases layout : isLayout c with
        | true => exact ends_at_layout onwards whole layout
        | false => exact ends_at_token blanking onwards whole found layout

/-- A comment with a line break behind a token that ends a statement, where the line goes on. -/
def LosesBreak (r : Reading) : Prop :=
  ∃ text rest, comment? r.rest = some (text, rest) ∧ '\n' ∈ text ∧
    r.last.any Token.endsStatement = true ∧ ¬ EndsLine rest

/-- Whether the line seems to go on behind a comment with a line break. -/
def seemsToLose (r : Reading) : Bool :=
  match comment? r.rest with
  | some (text, rest) =>
    text.contains '\n' && r.last.any Token.endsStatement && rest.headD '\n' != '\n'
  | none => false

theorem LosesBreak.seems (lost : r.LosesBreak) : r.seemsToLose = true := by
  obtain ⟨text, rest, found, lineBreak, closes, goesOn⟩ := lost
  have further : rest.headD '\n' ≠ '\n' := by
    intro ended
    cases rest with
    | nil => exact goesOn .ended
    | cons c rest =>
      cases ended
      exact goesOn (.lineBreak rest)
  simpa [seemsToLose, found, lineBreak, closes] using further

/-- Whether no place of the next steps seems to lose a line break. -/
def seemsSafe (fuel : Nat) (r : Reading) : Bool :=
  match fuel with
  | 0 => r.rest.isEmpty
  | fuel + 1 =>
    !r.seemsToLose && match r.step with
      | .ok q => q.seemsSafe fuel
      | .error _ => true

theorem Leads.keepsBreak {fuel : Nat} (leads : r.Leads q) (safe : r.seemsSafe fuel = true) :
    ¬ q.LosesBreak := by
  induction leads generalizing fuel with
  | refl r =>
    intro lost
    cases fuel with
    | zero =>
      obtain ⟨text, rest, found, -⟩ := lost
      rw [List.isEmpty_iff.mp safe] at found
      cases found
    | succ fuel => simp [seemsSafe, lost.seems] at safe
  | step shorter stepped later ih =>
    cases fuel with
    | zero =>
      rw [List.isEmpty_iff.mp safe] at shorter
      exact absurd shorter (Nat.not_lt_zero _)
    | succ fuel =>
      simp only [seemsSafe, stepped, Bool.and_eq_true] at safe
      exact ih safe.2

end Parser.Reading

theorem Parser.withoutMark_of_ne {c : Char} (other : c ≠ '\ufeff') (s : List Char) :
    Parser.withoutMark (c :: s) = c :: s := by
  unfold Parser.withoutMark
  split
  · rename_i same
    exact absurd (List.cons.inj same).1 other
  · rfl

theorem withoutMark_uncommented {instead : List Char → Char} (blanking : Blanking instead) (s : List Char) :
    Parser.withoutMark (uncommented instead s) = uncommented instead (Parser.withoutMark s) := by
  cases s with
  | nil => simp [Parser.withoutMark]
  | cons c s =>
    by_cases mark : c = '\ufeff'
    · subst mark
      rw [uncommented_plain (by decide)]
      rfl
    · obtain ⟨d, more, starts, first⟩ := uncommented_starts blanking c s
      have other : d ≠ '\ufeff' := by
        rcases first with rfl | ⟨-, rfl | rfl⟩
        · exact mark
        · decide
        · decide
      rw [Parser.withoutMark_of_ne mark, starts, Parser.withoutMark_of_ne other]

/-- What Go reads a comment as. -/
def lineOrBlank (text : List Char) : Char := if '\n' ∈ text then '\n' else ' '

namespace Source

/-- A text with a character in place of every comment. -/
def withoutComments (instead : List Char → Char) (text : String) : String :=
  String.ofList (uncommented instead text.toList)

theorem outline_gives {instead : List Char → Char} (blanking : Blanking instead) (path : Disk.Path)
    (text : String)
    (gives : (Parser.Reading.start (Parser.withoutMark text.toList)).Gives instead) :
    outline path (withoutComments instead text) = outline path text := by
  rw [outline_eq, outline_eq, withoutComments, String.toList_ofList, withoutMark_uncommented blanking]
  exact congrArg _ (Parser.Reading.ends_uncommented blanking gives)

/-- Blanks in place of all comments change nothing but positions and docs. Where no line break is
lost, neither do line breaks in place of the comments that contain one. -/
theorem outline_withoutComments (path : Disk.Path) (text : String) :
    outline path (withoutComments (fun _ => ' ') text) = outline path text ∧
      ((∀ r, (Parser.Reading.start (Parser.withoutMark text.toList)).Leads r → ¬ r.LosesBreak) →
        outline path (withoutComments lineOrBlank text) = outline path text) := by
  refine ⟨outline_gives (fun _ => .inl rfl) path text fun _ _ _ _ _ => .inl rfl, fun kept => ?_⟩
  have blanking : Blanking lineOrBlank := by
    intro text
    unfold lineOrBlank
    split
    · exact .inr rfl
    · exact .inl rfl
  refine outline_gives blanking path text fun r leads text rest found => ?_
  by_cases lineBreak : '\n' ∈ text
  · refine .inr ⟨if_pos lineBreak, fun closes => ?_⟩
    by_contra goesOn
    exact kept r leads ⟨text, rest, found, lineBreak, closes, goesOn⟩
  · exact .inl (if_neg lineBreak)

/-- Line breaks in comments at the ends of lines and behind a brace. -/
theorem outline_withoutComments_lines :
    let text := "package p /* a\n */\ntype T struct\x7b /* b\n */ A int `/* c */`\x7d // d\n" ++
      "type S interface\x7b\x7d /* e\n */"
    let bare := "package p \n\ntype T struct\x7b \n A int `/* c */`\x7d  \ntype S interface\x7b\x7d \n"
    withoutComments lineOrBlank text = bare ∧
      (outline (.ofString "a.go") text).isSome = true ∧
      outline (.ofString "a.go") bare = outline (.ofString "a.go") text := by
  intro text bare
  have same : withoutComments lineOrBlank text = bare := by decide +kernel
  have safe : (Parser.Reading.start (Parser.withoutMark text.toList)).seemsSafe 100 = true := by
    decide +kernel
  have kept := (outline_withoutComments (.ofString "a.go") text).2 fun r leads => leads.keepsBreak safe
  rw [same] at kept
  exact ⟨same, by decide +kernel, kept⟩

/-- A comment with a line break between two declarations does not part them. -/
theorem lineBreak_lost : ¬ ∀ path text, outline path (withoutComments lineOrBlank text) = outline path text := by
  intro same
  have both := congrArg Option.isSome
    (same (.ofString "a.go") "package a; type S interface\x7b\x7d /*\n*/ type T struct\x7b\x7d")
  revert both
  decide +kernel

end Source

end GoIdl.Syntax
