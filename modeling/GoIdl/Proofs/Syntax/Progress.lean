import GoIdl.Proofs.Outcomes
import GoIdl.Syntax.Parser.Reading

/-!
# How reading goes on

A step of reading takes a comment, blanks or a token off the text. What every step keeps holds where
the run ends, and it holds behind the tokens that are implied there if these keep it too.
-/

namespace GoIdl.Syntax

/-- Tokens that are not written: the semicolon at a line break, and the end of the input. -/
inductive Token.Implied : Token → Prop where
  | semicolon (pos : Position) : Implied (semicolonAt pos)
  | ended (pos : Position) : Implied ⟨.endOfInput, "", pos⟩

theorem Token.Implied.other {t : Token} {terminals : List Terminal} (implied : t.Implied)
    (others : .semicolon ∉ terminals ∧ .endOfInput ∉ terminals) : t.terminal ∉ terminals := by
  cases implied with
  | semicolon => exact others.1
  | ended => exact others.2

namespace Parser

namespace Reading

variable {r r' last : Reading} {t : Token}

/-! ### Tokens -/

theorem feed_ok (fed : r.feed t = .ok r') :
    ∃ step, advance (Comment.above r.comments) r.mode t = .ok step ∧
      r' = { r with mode := step.mode, fault := r.fault <|> step.fault, last := some t } := by
  unfold feed at fed
  split at fed
  · rename_i step advanced
    cases fed
    exact ⟨step, advanced, rfl⟩
  · cases fed

theorem feed_same (fed : r.feed t = .ok r') :
    r' = { r with mode := r'.mode, fault := r'.fault, last := r'.last } := by
  obtain ⟨step, -, rfl⟩ := feed_ok fed
  rfl

/-- What comes of a scanned token: it is fed, or it is a line break, for which a semicolon is fed or
nothing at all. -/
inductive Emits (r : Reading) (t : Token) : Reading → Prop where
  | token {after : Reading} (other : t.terminal ≠ .newline) (fed : r.feed t = .ok after) :
      Emits r t after
  | semicolon {after : Reading} (line : t.terminal = .newline)
      (fed : r.feed (semicolonAt t.pos) = .ok after) : Emits r t after
  | nothing (line : t.terminal = .newline) : Emits r t r

theorem emits_of_ok (emitted : r.emit t = .ok r') : r.Emits t r' := by
  unfold emit afterToken at emitted
  by_cases line : t.terminal = .newline
  · rw [if_pos line] at emitted
    by_cases ends : r.last.any Token.endsStatement = true
    · rw [if_pos ends] at emitted
      exact .semicolon line emitted
    · rw [if_neg ends] at emitted
      cases emitted
      exact .nothing line
  · rw [if_neg line] at emitted
    exact .token line emitted

theorem emit_same (emitted : r.emit t = .ok r') :
    r' = { r with mode := r'.mode, fault := r'.fault, last := r'.last } := by
  cases emits_of_ok emitted with
  | token _ fed | semicolon _ fed => exact feed_same fed
  | nothing => rfl

/-! ### Steps -/

/-- What a step of reading does. -/
inductive Steps (r : Reading) : Reading → Prop where
  | comment {text rest : List Char} (found : scan r.mode.expects r.rest = some (.comment text, rest)) :
      Steps r ({ r with comments := r.comments ++ [r.commentAt text] }.move text rest)
  | layout {text rest : List Char} (found : scan r.mode.expects r.rest = some (.layout text, rest)) :
      Steps r (r.move text rest)
  | token {t : Terminal} {text rest : List Char} {after : Reading}
      (found : scan r.mode.expects r.rest = some (.token t text, rest))
      (emitted : r.emit ⟨t, String.ofList text, r.pos⟩ = .ok after) : Steps r (after.move text rest)
  | ended (empty : r.rest = []) : Steps r r

theorem steps_of_ok (read : r.step = .ok r') : r.Steps r' := by
  unfold Reading.step at read
  split at read
  · rename_i found
    cases read
    exact .comment found
  · rename_i found
    cases read
    exact .layout found
  · rename_i found
    obtain ⟨after, emitted, moved⟩ := bind_eq_ok.mp read
    cases moved
    exact .token found emitted
  · split at read
    · rename_i empty
      cases read
      exact .ended empty
    · cases read

/-- The steps may go by where the run ends. -/
theorem run_keeps_toward (keeps : Reading → Prop) {fuel : Nat}
    (step : ∀ r r' fuel, keeps r → r.Steps r' → r'.run fuel = .ok last → keeps r') (held : keeps r)
    (ran : r.run fuel = .ok last) : keeps last := by
  induction fuel generalizing r with
  | zero =>
    cases ran
    exact held
  | succ fuel ih =>
    unfold Reading.run at ran
    split at ran
    · cases ran
      exact held
    · obtain ⟨next, stepped, later⟩ := bind_eq_ok.mp ran
      exact ih (step r next fuel held (steps_of_ok stepped) later) later

theorem run_keeps (keeps : Reading → Prop) {fuel : Nat}
    (step : ∀ r r', keeps r → r.Steps r' → keeps r') (held : keeps r) (ran : r.run fuel = .ok last) :
    keeps last :=
  run_keeps_toward keeps (fun r r' _ held stepped _ => step r r' held stepped) held ran

/-! ### The end -/

theorem finish_keeps (keeps : Reading → Prop)
    (feed : ∀ r r' t, keeps r → t.Implied → r.feed t = .ok r' → keeps r') (held : keeps r)
    (read : r.finish = .ok r') : keeps r' := by
  unfold finish at read
  dsimp only at read
  split at read
  · rename_i t stands
    obtain ⟨u, -, rfl⟩ := Option.map_eq_some_iff.mp stands
    obtain ⟨closed, first, second⟩ := bind_eq_ok.mp read
    exact feed _ _ _ (feed _ _ _ held (.semicolon u.pos) first) (.ended _) second
  · exact feed _ _ _ held (.ended _) read

theorem finish_same (read : r.finish = .ok r') :
    r' = { r with mode := r'.mode, fault := r'.fault, last := r'.last } := by
  refine finish_keeps (fun q => q = { r with mode := q.mode, fault := q.fault, last := q.last })
    (fun q q' t same _ fed => ?_) rfl read
  rw [feed_same fed, same]

end Reading

/-- A text that has been read makes a file, unless something has been put aside. -/
theorem parse_ok {source : List Char} {parsed : Parsed} (read : parse source = .ok parsed) :
    ∃ r last, (Reading.start source).run source.length = .ok r ∧ r.finish = .ok last ∧
      parsed.comments = last.comments ∧
        ((∃ fault, last.fault = some fault ∧ parsed.file = .error fault) ∨
          ∃ file, last.mode = .done file ∧ parsed.file = .ok file) := by
  obtain ⟨r, ran, read⟩ := bind_eq_ok.mp read
  obtain ⟨last, finished, read⟩ := bind_eq_ok.mp read
  refine ⟨r, last, ran, finished, ?_⟩
  split at read
  · rename_i found
    cases read
    exact ⟨rfl, .inl ⟨_, found, rfl⟩⟩
  · rename_i done
    cases read
    exact ⟨rfl, .inr ⟨_, done, rfl⟩⟩
  · cases read

theorem parse_done {source : List Char} {parsed : Parsed} {file : SourceFile}
    (read : parse source = .ok parsed) (whole : parsed.file = .ok file) :
    ∃ r last, (Reading.start source).run source.length = .ok r ∧ r.finish = .ok last ∧
      parsed.comments = last.comments ∧ last.mode = .done file := by
  obtain ⟨r, last, ran, finished, comments, ⟨fault, -, failed⟩ | ⟨other, done, same⟩⟩ := parse_ok read
  · cases failed.symm.trans whole
  · cases same.symm.trans whole
    exact ⟨r, last, ran, finished, comments, done⟩

end Parser

end GoIdl.Syntax
