import GoIdl.Proofs.Syntax.Outline
import GoIdl.Proofs.Syntax.Standing

/-!
# Where a reading ends

The outline that a place of reading leads to. It depends on the outline of the place alone, and it is
the same before and after every comment and every blank.
-/

namespace GoIdl.Syntax

/-! ### Lexemes are not empty -/

variable {accepted : List Terminal} {s text rest : List Char} {c : Char} {t : Terminal}

theorem comment?_filled (found : comment? s = some (text, rest)) : text ≠ [] := by
  unfold comment? at found
  split at found
  · cases found
    exact List.cons_ne_nil _ _
  · obtain ⟨_, -, same⟩ := Option.map_eq_some_iff.mp found
    cases same
    exact List.cons_ne_nil _ _
  · cases found

theorem quotedLiteral?_filled {mark : Char} (found : quotedLiteral? mark s = some (text, rest)) :
    text ≠ [] := by
  unfold quotedLiteral? at found
  split at found
  · split at found
    · split at found
      · split at found <;> cases found
        exact List.cons_ne_nil _ _
      · cases found
    · cases found
  · cases found

theorem pattern?_filled (found : pattern? t s = some (text, rest)) : text ≠ [] := by
  unfold pattern? at found
  split at found
  · split at found
    · cases found
    · rename_i filled
      rintro rfl
      exact filled rest (Option.some.inj found)
  · exact (run?_append found).2
  · exact quotedLiteral?_filled (Option.filter_eq_some_iff.mp found).1
  · exact quotedLiteral?_filled found
  · exact (run?_append found).2
  · unfold rawLiteral? at found
    split at found
    · obtain ⟨_, -, same⟩ := Option.map_eq_some_iff.mp found
      cases same
      exact List.cons_ne_nil _ _
    · cases found
  · cases found

theorem scan_filled {lexeme : Lexeme} (found : scan accepted s = some (lexeme, rest)) :
    lexeme.text ≠ [] := by
  have spelled : ∀ entry ∈ Terminal.keywords ++ Terminal.signs ++ Terminal.brackets,
      entry.1.toList ≠ [] := by
    decide
  unfold scan at found
  split at found
  · rename_i comment
    cases found
    exact comment?_filled comment
  · split at found
    · rename_i hit
      cases found
      obtain ⟨u, -, read⟩ := List.exists_of_findSome?_eq_some hit
      obtain ⟨_, matched, same⟩ := Option.map_eq_some_iff.mp read
      cases same
      exact pattern?_filled matched
    · split at found
      · rename_i layout
        cases found
        exact (run?_append layout).2
      · split at found
        · cases found
          exact List.cons_ne_nil _ _
        · obtain ⟨⟨word, u⟩, member, read⟩ := List.exists_of_findSome?_eq_some found
          dsimp only at read
          split at read <;> cases read
          exact spelled _ (mem_of_spelled member)

theorem scan_length_lt {lexeme : Lexeme} (found : scan accepted s = some (lexeme, rest)) :
    rest.length < s.length := by
  have positive := List.length_pos_iff.mpr (scan_filled found)
  rw [scan_append found, List.length_append]
  omega

/-! ### Blanks -/

theorem operatorRun_of_not (slash : c ≠ '/') (sign : isOperatorSign c = false) :
    operatorRun (c :: rest) = ([], c :: rest) := by
  unfold operatorRun
  split
  · rename_i empty
    cases empty
  · rename_i same
    exact absurd (List.cons.inj same).1 slash
  · rename_i same
    exact absurd (List.cons.inj same).1 slash
  · rename_i same
    cases same
    rw [if_neg (by simp [slash, sign])]

theorem patterns_blank (plain : opensNothing c = true) (sign : isOperatorSign c = false) :
    ((patterned.filter accepted.contains).findSome? fun t => (pattern? t (c :: rest)).map (t, ·)) =
      none := by
  rw [List.findSome?_eq_none_iff]
  intro t member
  have unmatched : pattern? t (c :: rest) = none := by
    by_cases operator : t = .operator
    · rw [operator, pattern?, operatorRun_of_not (opensNothing_ne_slash plain) sign]
    · have listed := (List.mem_filter.mp member).1
      have others : ((patterned.filter [t].contains).findSome? fun t =>
          (pattern? t (c :: rest)).map (t, ·)) = none :=
        patterns_eq_none (by simpa using Ne.symm operator) plain
      rw [List.findSome?_eq_none_iff] at others
      exact Option.map_eq_none_iff.mp (others t (List.mem_filter.mpr ⟨listed, by simp⟩))
  rw [unmatched]
  rfl

theorem scan_layout (layout : isLayout c = true) :
    scan accepted (c :: rest) =
      some (.layout (c :: rest.takeWhile isLayout), rest.dropWhile isLayout) := by
  have blank : opensNothing c = true ∧ isOperatorSign c = false := by
    simp only [isLayout, Bool.or_eq_true, beq_iff_eq] at layout
    rcases layout with ((rfl | rfl) | rfl) | rfl <;> decide
  unfold scan
  rw [comment?_eq_none (opensNothing_ne_slash blank.1)]
  simp only [patterns_blank blank.1 blank.2]
  rw [run?, if_pos layout, List.span_eq_takeWhile_dropWhile]

theorem scan_lineBreak : scan accepted ('\n' :: rest) = some (.token .newline ['\n'], rest) := by
  unfold scan
  rw [comment?_eq_none (by decide)]
  simp only [patterns_blank (show opensNothing '\n' = true by decide) (by decide),
    run?_eq_none (show isLayout '\n' = false by decide)]

theorem scan_comment (accepted : List Terminal) (found : comment? s = some (text, rest)) :
    scan accepted s = some (.comment text, rest) := by
  unfold scan
  rw [found]

/-! ### Outlines of readings -/

namespace Parser.Reading

def outline (r : Reading) : Reading :=
  { rest := r.rest, pos := nowhere, lineBlank := true, comments := [],
    last := r.last.map Token.outline, mode := r.mode.outline,
    fault := r.fault.map ContentFault.outline }

/-- What an outcome shows when faults, positions and docs do not count. -/
def shown (outcome : Except SyntaxFault Reading) : Option Reading := outcome.toOption.map outline

variable {r q : Reading} {t u : Token}

theorem shown_bind {x y : Except SyntaxFault Reading} {f g : Reading → Except SyntaxFault Reading}
    (first : shown x = shown y) (later : ∀ r q, r.outline = q.outline → shown (f r) = shown (g q)) :
    shown (x.bind f) = shown (y.bind g) := by
  cases x with
  | error =>
    cases y with
    | error => rfl
    | ok => cases first
  | ok r =>
    cases y with
    | error => cases first
    | ok q => exact later r q (Option.some.inj first)

theorem rest_eq (same : r.outline = q.outline) : r.rest = q.rest := by
  have texts := congrArg Reading.rest same
  exact texts

theorem feed_outline (r : Reading) (t : Token) :
    shown (r.feed t) = (r.outline.feed t.outline).toOption := by
  -- An outline has no comments, so that none of its declarations finds a doc.
  have undocumented : Comment.above r.outline.comments = fun _ => "" := rfl
  have advanced := advance_outline (Comment.above r.comments) r.mode t
  unfold Reading.feed
  rw [undocumented, show r.outline.mode = r.mode.outline from rfl, advanced]
  cases advance (Comment.above r.comments) r.mode t with
  | error expected => rfl
  | ok step =>
    have fault : (r.fault <|> step.fault).map ContentFault.outline =
        (r.outline.fault <|> step.outline.fault) := by
      cases known : r.fault <;> simp [outline, Step.outline, known]
    simp only [shown, Except.toOption, Option.map_some, ok_outline]
    rw [outline, fault]
    rfl

theorem feed_congr (same : r.outline = q.outline) (token : t.outline = u.outline) :
    shown (r.feed t) = shown (q.feed u) := by
  rw [feed_outline, feed_outline, same, token]

theorem afterToken_outline (last : Option Token) (t : Token) :
    afterToken (last.map Token.outline) t.outline = (afterToken last t).map Token.outline := by
  have ends : (last.map Token.outline).any Token.endsStatement = last.any Token.endsStatement := by
    cases last <;> rfl
  rw [afterToken, afterToken, ends, terminal_outline]
  split
  · split <;> rfl
  · rfl

theorem emit_congr (same : r.outline = q.outline) (token : t.outline = u.outline) :
    shown (r.emit t) = shown (q.emit u) := by
  have after : (afterToken r.last t).map Token.outline = (afterToken q.last u).map Token.outline := by
    rw [← afterToken_outline, ← afterToken_outline, token]
    exact congrArg (fun r => afterToken (Reading.last r) u.outline) same
  unfold Reading.emit
  cases fed : afterToken r.last t <;> cases fed' : afterToken q.last u <;> rw [fed, fed'] at after
  · exact congrArg some same
  · cases after
  · cases after
  · exact feed_congr same (Option.some.inj after)

theorem step_congr (same : r.outline = q.outline) : shown r.step = shown q.step := by
  have mode : r.mode.expects = q.mode.expects := by
    rw [← expects_outline, ← expects_outline q.mode]
    exact congrArg (fun r => r.mode.expects) same
  have text := rest_eq same
  have moved : ∀ rest, { r.outline with rest } = { q.outline with rest } := by
    rw [same]
    exact fun _ => rfl
  unfold Reading.step
  rw [mode, text]
  cases scan q.mode.expects q.rest with
  | none =>
    cases q.rest with
    | nil => exact congrArg some same
    | cons => rfl
  | some found =>
    obtain ⟨lexeme, rest⟩ := found
    cases lexeme with
    | comment | layout => exact congrArg some (moved rest)
    | token t text =>
      refine shown_bind (emit_congr same rfl) fun r q same => ?_
      exact congrArg (fun r => some { r with rest }) same

theorem run_congr {fuel : Nat} (same : r.outline = q.outline) : shown (r.run fuel) = shown (q.run fuel) := by
  induction fuel generalizing r q with
  | zero => exact congrArg some same
  | succ fuel ih =>
    have text := rest_eq same
    rw [Reading.run, Reading.run, text]
    split
    · exact congrArg some same
    · exact shown_bind (step_congr same) fun _ _ => ih

theorem finish_congr (same : r.outline = q.outline) : shown r.finish = shown q.finish := by
  have last : r.last.map Token.outline = q.last.map Token.outline := congrArg Reading.last same
  have closing : ∀ last : Option Token, (atEnd last).map Token.outline =
      ((last.map Token.outline).filter Token.endsStatement).map fun _ => semicolonAt nowhere := by
    rintro (_ | t)
    · rfl
    · cases ends : t.endsStatement
      · have ends' : t.outline.endsStatement = false := ends
        simp [atEnd, Option.filter, ends, ends']
      · have ends' : t.outline.endsStatement = true := ends
        simp only [atEnd, Option.filter, ends, ends', Option.map_some, if_true]
        rfl
  have both : (atEnd r.last).map Token.outline = (atEnd q.last).map Token.outline := by
    rw [closing, closing, last]
  have ended : ∀ r q : Reading, r.outline = q.outline →
      shown (r.feed r.endToken) = shown (q.feed q.endToken) := fun _ _ same => feed_congr same rfl
  unfold Reading.finish
  cases fed : atEnd r.last <;> cases fed' : atEnd q.last <;> rw [fed, fed'] at both
  · exact ended r q same
  · cases both
  · cases both
  · exact shown_bind (feed_congr same (Option.some.inj both)) ended

/-! ### Where a reading ends -/

def result (r : Reading) : Option SourceFile :=
  match r.fault, r.mode with
  | none, .done file => some file
  | _, _ => none

/-- The outline of the file that the reading leads to; none if its text cannot be read. -/
def ends (r : Reading) : Option SourceFile :=
  (shown ((r.run r.rest.length).bind finish)).bind result

theorem ends_congr (same : r.outline = q.outline) : r.ends = q.ends := by
  have text := rest_eq same
  rw [ends, ends, text, shown_bind (run_congr same) fun _ _ => finish_congr]

theorem ends_nil (empty : r.rest = []) : r.ends = (shown r.finish).bind result := by
  rw [ends, empty]
  rfl

theorem step_shorter (filled : r.rest ≠ []) (stepped : r.step = .ok q) :
    q.rest.length < r.rest.length := by
  cases steps_of_ok stepped with
  | comment found | layout found | token found => exact scan_length_lt found
  | ended empty => exact absurd empty filled

theorem run_of_nil (empty : r.rest = []) (fuel : Nat) : r.run fuel = .ok r := by
  cases fuel with
  | zero => rfl
  | succ fuel => rw [Reading.run, empty, List.isEmpty_nil, if_pos rfl]

theorem run_enough {fuel more : Nat} (enough : r.rest.length ≤ fuel) (also : r.rest.length ≤ more) :
    r.run fuel = r.run more := by
  induction fuel generalizing r more with
  | zero =>
    have empty := List.length_eq_zero_iff.mp (Nat.le_zero.mp enough)
    rw [run_of_nil empty, run_of_nil empty]
  | succ fuel ih =>
    by_cases empty : r.rest = []
    · rw [run_of_nil empty, run_of_nil empty]
    · have positive := List.length_pos_iff.mpr empty
      obtain ⟨more, rfl⟩ := Nat.exists_eq_add_one.mpr (Nat.lt_of_lt_of_le positive also)
      rw [Reading.run, Reading.run]
      split
      · rfl
      · cases stepped : r.step with
        | error => rfl
        | ok q =>
          have shorter := step_shorter empty stepped
          exact ih (by omega) (by omega)

theorem ends_step (filled : r.rest ≠ []) : r.ends = r.step.toOption.bind ends := by
  obtain ⟨fuel, length⟩ := Nat.exists_eq_add_one.mpr (List.length_pos_iff.mpr filled)
  have more : r.rest.isEmpty = false := List.isEmpty_eq_false_iff.mpr filled
  rw [ends, length, Reading.run, more]
  cases stepped : r.step with
  | error => rfl
  | ok q =>
    have shorter := step_shorter filled stepped
    have enough : q.run fuel = q.run q.rest.length := run_enough (by omega) (Nat.le_refl _)
    change (shown ((q.run fuel).bind finish)).bind result = q.ends
    rw [enough, ends]

theorem ends_stuck (filled : r.rest ≠ []) (stuck : scan r.mode.expects r.rest = none) : r.ends = none := by
  have failed : r.step.toOption = none := by
    unfold Reading.step
    rw [stuck]
    cases rest : r.rest with
    | nil => exact absurd rest filled
    | cons => rfl
  rw [ends_step filled, failed]
  rfl

theorem ne_nil_of_scan {lexeme : Lexeme} (found : scan accepted s = some (lexeme, rest)) : s ≠ [] := by
  rintro rfl
  exact absurd (scan_length_lt found) (Nat.not_lt_zero _)

theorem ends_comment (found : comment? r.rest = some (text, rest)) : r.ends = { r with rest }.ends := by
  have scanned := scan_comment r.mode.expects found
  rw [ends_step (ne_nil_of_scan scanned)]
  unfold Reading.step
  rw [scanned]
  exact ends_congr rfl

theorem ends_token {t : Terminal} (found : scan r.mode.expects r.rest = some (.token t text, rest)) :
    r.ends = (r.emit ⟨t, String.ofList text, r.pos⟩).toOption.bind fun after =>
      { after with rest }.ends := by
  rw [ends_step (ne_nil_of_scan found)]
  unfold Reading.step
  rw [found]
  dsimp only
  cases r.emit ⟨t, String.ofList text, r.pos⟩ with
  | error => rfl
  | ok after => exact ends_congr rfl

theorem ends_layout (layout : isLayout c = true) :
    { r with rest := c :: rest }.ends = { r with rest := rest.dropWhile isLayout }.ends := by
  rw [ends_step (List.cons_ne_nil _ _)]
  unfold Reading.step
  simp only [scan_layout layout]
  exact ends_congr rfl

theorem ends_trim (r : Reading) (rest : List Char) :
    { r with rest }.ends = { r with rest := rest.dropWhile isLayout }.ends := by
  cases rest with
  | nil => rfl
  | cons c rest =>
    by_cases layout : isLayout c = true
    · rw [ends_layout layout, List.dropWhile_cons_of_pos layout]
    · rw [List.dropWhile_cons_of_neg layout]

theorem ends_blank (layout : isLayout c = true) :
    { r with rest := c :: rest }.ends = { r with rest }.ends := by
  rw [ends_layout layout, ends_trim r rest]

end Parser.Reading

/-! ### Outlines of sources -/

/-- The outline of a text's syntax tree; none if the text cannot be read. -/
def Source.outline (path : Disk.Path) (text : String) : Option SourceFile :=
  (ofPath path text).toOption.map SourceFile.outline

theorem Source.outline_eq (path : Disk.Path) (text : String) :
    outline path text = (Parser.Reading.start (Parser.withoutMark text.toList)).ends.map
      fun file => { file with path := path.text } := by
  generalize whole : Parser.withoutMark text.toList = source
  have length : (Parser.Reading.start source).rest.length = source.length := rfl
  rw [outline, ofPath, parse, Parser.parse, whole, Parser.Reading.ends, length]
  cases (Parser.Reading.start source).run source.length with
  | error => rfl
  | ok r =>
    change _ = ((Parser.Reading.shown r.finish).bind Parser.Reading.result).map _
    cases finished : r.finish with
    | error =>
      simp only [bind, Except.bind, finished]
      rfl
    | ok last =>
      obtain ⟨_, _, _, _, _, mode, fault⟩ := last
      simp only [bind, Except.bind, finished]
      cases fault with
      | some => rfl
      | none => cases mode <;> rfl

end GoIdl.Syntax
