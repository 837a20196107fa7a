import GoIdl.Proofs.Syntax.Placing

/-!
# Exact positions

In a file that has been read, names stand in the source where their positions say, those of parameters
that share a type included. Docs are those above the positions that they were looked up for, among all
comments of the source.
-/

namespace GoIdl.Syntax

variable {source text rest : List Char} {t : Terminal} {accepted : List Terminal}
  {comments : List Comment}

/-! ### What lies between -/

/-- Blanks, comments and some tokens lead from a text to what is left of it. -/
inductive Between : List String → List Char → List Char → Prop where
  | nil (s : List Char) : Between [] s s
  | blank {tokens : List String} {c : Char} {s rest : List Char} (blank : Text.isBlank c = true)
      (more : Between tokens s rest) : Between tokens (c :: s) rest
  | comment {tokens : List String} {s text more rest : List Char} (found : comment? s = some (text, more))
      (later : Between tokens more rest) : Between tokens s rest
  | token {tokens : List String} {s rest : List Char} (word : String) (more : Between tokens s rest) :
      Between (word :: tokens) (word.toList ++ s) rest

namespace Between

variable {tokens tokens' : List String} {s more : List Char}

theorem trans (first : Between tokens s more) (second : Between tokens' more rest) :
    Between (tokens ++ tokens') s rest := by
  induction first with
  | nil => exact second
  | blank blank _ ih => exact .blank blank (ih second)
  | comment found _ ih => exact .comment found (ih second)
  | token word _ ih => exact .token word (ih second)

theorem onward (first : Between tokens s more) (second : Between [] more rest) : Between tokens s rest := by
  have both := first.trans second
  rwa [List.append_nil] at both

theorem blanks (blank : ∀ c ∈ text, Text.isBlank c = true) : Between [] (text ++ rest) rest := by
  induction text with
  | nil => exact .nil rest
  | cons c text ih =>
    exact .blank (blank c List.mem_cons_self) (ih fun d inside => blank d (List.mem_cons_of_mem _ inside))

end Between

/-- Nothing but blanks, comments and some tokens stands from one position to the other. -/
def Lead (source : List Char) (tokens : List String) (pos pos' : Position) : Prop :=
  ∃ before s before' s', source = before ++ s ∧ pos = .behind before ∧ source = before' ++ s' ∧
    pos' = .behind before' ∧ Between tokens s s'

def LookedUp (source : List Char) (comments : List Comment) (pos : Position) (doc : String) : Prop :=
  doc = Comment.above comments pos.line ∧ Stands source pos ""

/-- Names and marks stand in the source, and docs are the ones above places of the source. -/
def sourceRules (source : List Char) (comments : List Comment) : Rules where
  name := NameStands source
  mark := Stands source
  doc := LookedUp source comments
  group pos doc := ∃ keyword, LookedUp source comments keyword doc ∧ Lead source ["type", "("] keyword pos

/-- The tokens before what is left of a source, from the keyword of a declaration on. -/
def Since (source : List Char) (comments : List Comment) (rest : List Char) (tokens : List String)
    (doc : String) : Prop :=
  ∃ before s, source = before ++ s ∧ LookedUp source comments (.behind before) doc ∧ Between tokens s rest

theorem Since.mono {more : List Char} (onward : Between [] more rest) (tokens : List String) (doc : String)
    (since : Since source comments more tokens doc) : Since source comments rest tokens doc := by
  obtain ⟨before, s, whole, above, between⟩ := since
  exact ⟨before, s, whole, above, between.onward onward⟩

/-! ### Scanned tokens -/

theorem between_skipped {lexeme : Lexeme} (skipped : ∀ t text, lexeme ≠ .token t text)
    (found : scan accepted source = some (lexeme, rest)) : Between [] source rest := by
  have layout : ∀ c, isLayout c = true → Text.isBlank c = true := by
    intro c layout
    simp only [isLayout, Bool.or_eq_true, beq_iff_eq] at layout
    rcases layout with ((rfl | rfl) | rfl) | rfl <;> decide
  unfold scan at found
  split at found
  · rename_i comment
    cases found
    exact .comment comment (.nil rest)
  · split at found
    · cases found
      exact absurd rfl (skipped _ _)
    · split at found
      · rename_i run
        cases found
        obtain ⟨c, more, letters, starts, goes⟩ := run?_spelled run
        rw [String.toList_ofList] at letters
        rw [(run?_append run).1, letters]
        exact .blanks (List.forall_mem_cons.mpr ⟨layout c starts, fun d inside => layout d (goes d inside)⟩)
      · split at found
        · cases found
          exact absurd rfl (skipped _ _)
        · obtain ⟨⟨word, u⟩, -, read⟩ := List.exists_of_findSome?_eq_some found
          dsimp only at read
          split at read <;> cases read
          exact absurd rfl (skipped _ _)

/-- The tokens that docs are looked up for fill their lines. -/
theorem filled_of_scan (documentable : t ∈ [.name, .typeKeyword, .star])
    (found : scan accepted source = some (.token t text, rest)) :
    ∃ c more, text = c :: more ∧ Text.isBlank c = false ∧ '\n' ∉ text := by
  simp only [List.mem_cons, List.not_mem_nil, or_false] at documentable
  rcases documentable with rfl | rfl | rfl
  · obtain ⟨c, more, letters, starts, goes⟩ := ((scan_scanned ⟨1, 1⟩ found).name rfl).spelled
    rw [String.toList_ofList] at letters
    have word : ∀ d ∈ text, Text.isWord d = true := by
      rw [Text.isWordStart, Bool.and_eq_true] at starts
      rw [letters]
      exact List.forall_mem_cons.mpr ⟨starts.1, goes⟩
    refine ⟨c, more, letters, Text.isBlank_of_isWord (word c (by simp [letters])), fun breaks => ?_⟩
    exact absurd (word '\n' breaks) (by decide)
  · have spelled := scan_spelling "type" (by decide) (by decide) found
    exact ⟨'t', ['y', 'p', 'e'], spelled, by decide, by rw [spelled]; decide⟩
  · have spelled := scan_spelling "*" (by decide) (by decide) found
    exact ⟨'*', [], spelled, by decide, by rw [spelled]; decide⟩

namespace Parser.Reading

variable {r r' last : Reading}

theorem placed_other {R : Rules} {docs : Nat → String} {t : Token}
    (other : t.terminal ∉ [.name, .typeKeyword, .star]) : t.Placed R docs := by
  simp only [List.mem_cons, List.not_mem_nil, or_false, not_or] at other
  refine ⟨fun same => absurd same other.1, fun same => absurd same other.2.2, fun member => ?_⟩
  simp only [List.mem_cons, List.not_mem_nil, or_false] at member
  rcases member with same | same | same
  · exact absurd same other.1
  · exact absurd same other.2.1
  · exact absurd same other.2.2

/-- What a scanned token tells, if the comments still to come do not document its line. -/
theorem Within.token (within : r.Within source)
    (found : scan r.mode.expects r.rest = some (.token t text, rest))
    (docs : t ∈ [.name, .typeKeyword, .star] →
      Comment.above comments r.pos.line = Comment.above r.comments r.pos.line) :
    Token.Placed (sourceRules source comments) (Comment.above r.comments)
      ⟨t, String.ofList text, r.pos⟩ := by
  have stands : Stands source r.pos (String.ofList text) := within.stands (scan_append found)
  have inside : Stands source r.pos "" := within.stands (show r.rest = [] ++ r.rest from rfl)
  refine ⟨?_, ?_, fun member => ⟨(docs member).symm, inside⟩⟩
  · rintro ⟨⟩
    exact within.nameStands found
  · rintro ⟨⟩
    rwa [scan_spelling "*" (by decide) (by decide) found, String.ofList_toList] at stands

theorem follows_other {R : Rules} {docs : Nat → String} {before since : List String → String → Prop}
    {t : Token} (other : t.terminal ∉ [.typeKeyword, .leftParen, .name]) :
    t.Follows R docs before since := by
  simp only [List.mem_cons, List.not_mem_nil, or_false, not_or] at other
  exact ⟨fun same => absurd same other.1, fun same => absurd same other.2.1,
    fun same => absurd same other.2.2⟩

theorem Within.follows (within : r.Within source)
    (found : scan r.mode.expects r.rest = some (.token t text, rest))
    (docs : t = .typeKeyword → Comment.above comments r.pos.line = Comment.above r.comments r.pos.line) :
    Token.Follows (sourceRules source comments) (Comment.above r.comments)
      (Since source comments r.rest) (Since source comments rest) ⟨t, String.ofList text, r.pos⟩ := by
  have whole := scan_append found
  have inside : Stands source r.pos "" := within.stands (show r.rest = [] ++ r.rest from rfl)
  obtain ⟨upTo, source', pos, -⟩ := within.read
  refine ⟨?_, ?_, ?_⟩
  · rintro ⟨⟩
    have spelled : r.rest = "type".toList ++ rest := by
      rw [whole, Lexeme.text, scan_spelling "type" (by decide) (by decide) found]
    refine ⟨upTo, r.rest, source', pos ▸ ⟨(docs rfl).symm, inside⟩, ?_⟩
    rw [spelled]
    exact .token "type" (.nil rest)
  · rintro ⟨⟩ doc ⟨before, s, source'', above, between⟩
    have spelled : r.rest = "(".toList ++ rest := by
      rw [whole, Lexeme.text, scan_spelling "(" (by decide) (by decide) found]
    refine ⟨before, s, source'', above, between.trans ?_⟩
    rw [spelled]
    exact .token "(" (.nil rest)
  · rintro - doc ⟨before, s, source'', above, between⟩
    exact ⟨_, above, before, s, upTo, r.rest, source'', rfl, source', pos, between⟩

section

variable {R : Rules} {before since : List String → String → Prop} {t : Token}

theorem feed_placed (token : t.Placed R (Comment.above r.comments))
    (follows : t.Follows R (Comment.above r.comments) before since) (placed : r.mode.Placed R before)
    (fed : r.feed t = .ok r') : r'.mode.Placed R since := by
  obtain ⟨step, advanced, rfl⟩ := feed_ok fed
  unfold advance at advanced
  split at advanced
  · rename_i expected
    exact accept_placed token follows (List.contains_iff_mem.mp expected) placed step advanced
  · cases advanced

theorem feed_implied_placed (implied : t.Implied) (placed : r.mode.Placed R before)
    (fed : r.feed t = .ok r') : r'.mode.Placed R since :=
  feed_placed (placed_other (implied.other (by decide))) (follows_other (implied.other (by decide)))
    placed fed

theorem emit_placed (token : t.Placed R (Comment.above r.comments))
    (follows : t.Follows R (Comment.above r.comments) before since)
    (dropped : t.terminal = .newline → ∀ tokens doc, before tokens doc → since tokens doc)
    (placed : r.mode.Placed R before) (emitted : r.emit t = .ok r') : r'.mode.Placed R since := by
  cases emits_of_ok emitted with
  | token _ fed => exact feed_placed token follows placed fed
  | semicolon _ fed => exact feed_implied_placed (.semicolon _) placed fed
  | nothing line => exact placed.mono (dropped line)

end

theorem Steps.placed (step : r.Steps r') (within : r.Within source)
    (placed : r.mode.Placed (sourceRules source comments) (Since source comments r.rest))
    (docs : ∀ line, r'.Past line → Comment.above comments line = Comment.above r'.comments line) :
    r'.mode.Placed (sourceRules source comments) (Since source comments r'.rest) := by
  cases step with
  | comment found => exact placed.mono (Since.mono (between_skipped (by simp) found))
  | layout found => exact placed.mono (Since.mono (between_skipped (by simp) found))
  | @token t text rest after found emitted =>
    have looked : t ∈ [.name, .typeKeyword, .star] →
        Comment.above comments r.pos.line = Comment.above r.comments r.pos.line := by
      intro documentable
      obtain ⟨c, more, rfl, filled, single⟩ := filled_of_scan documentable found
      rw [emit_same emitted] at docs
      exact docs r.pos.line (Past.of_filled rest filled single)
    have dropped : t = .newline → ∀ tokens doc, Since source comments r.rest tokens doc →
        Since source comments rest tokens doc := by
      rintro rfl
      refine Since.mono ?_
      rw [scan_append found, Lexeme.text, scan_newline_text found]
      exact .blank (by decide) (.nil rest)
    have kept : after.mode.Placed (sourceRules source comments) (Since source comments rest) :=
      emit_placed (within.token found looked)
        (within.follows found fun keyword => looked (by simp [keyword])) dropped placed emitted
    exact kept
  | ended => exact placed

end Parser.Reading

/-- What has been read from a text stands in it, and so do its comments. -/
theorem Parser.parse_placed {parsed : Parsed} {file : SourceFile} (read : parse source = .ok parsed)
    (whole : parsed.file = .ok file) :
    (∀ c ∈ parsed.comments, c.Stands source) ∧ file.Placed (sourceRules source parsed.comments) := by
  obtain ⟨r, last, ran, finished, comments, mode⟩ := parse_done read whole
  have same : parsed.comments = r.comments := by rw [comments, Reading.finish_same finished]
  rw [same]
  -- A token is read before the comments that follow it, but none of these documents its line.
  obtain ⟨within, placed⟩ : r.Within source ∧
      r.mode.Placed (sourceRules source r.comments) (Since source r.comments r.rest) :=
    Reading.run_keeps_toward
      (fun q => q.Within source ∧ q.mode.Placed (sourceRules source r.comments)
        (Since source r.comments q.rest))
      (fun _ _ _ held step later => ⟨held.1.steps step,
        step.placed held.1 held.2 fun _ past => past.above_run later⟩)
      ⟨.start source, trivial⟩ ran
  have closed := Reading.finish_keeps
    (·.mode.Placed (sourceRules source r.comments) (Since source r.comments r.rest))
    (fun _ _ _ held implied fed => Reading.feed_implied_placed implied held fed) placed finished
  rw [mode] at closed
  exact ⟨within.comments, closed⟩

namespace Source

theorem ofPath_ok {path : Disk.Path} {text : String} {file : SourceFile}
    (done : ofPath path text = .ok file) :
    ∃ parsed content, Parser.parse (Parser.withoutMark text.toList) = .ok parsed ∧
      parsed.file = .ok content ∧ file = { content with path := path.text } := by
  obtain ⟨parsed, parsing, done⟩ := bind_eq_ok.mp done
  obtain ⟨content, whole, done⟩ := bind_eq_ok.mp done
  cases done
  exact ⟨parsed, content, mapError_eq_ok.mp parsing, mapError_eq_ok.mp whole, rfl⟩

/-- The name of every type, method, parameter, result and field that does not embed a type, and the
first word of every type name, stand in the source at their positions. -/
theorem ofPath_places {path : Disk.Path} {text : String} {file : SourceFile}
    (done : ofPath path text = .ok file) :
    ∀ spec ∈ file.types,
      NameStands (Parser.withoutMark text.toList) spec.pos spec.name ∧
        ∀ part ∈ spec.type.parts, part.Written (NameStands (Parser.withoutMark text.toList)) := by
  obtain ⟨parsed, content, read, whole, rfl⟩ := ofPath_ok done
  intro spec declared
  have placed := (Parser.parse_placed read whole).2 spec declared
  exact ⟨placed.name, fun part inside => (placed.type part inside).1⟩

/-- Positions behind a comment and a raw string that go over several lines. -/
theorem ofPath_places_below : ∃ file,
    ofPath (.ofString "a.go") ("\ufeffpackage p\n/* c\n d */ type T struct\x7bA, B int `k\nv`; *q.C\x7d\n" ++
      "type S interface\x7bM(a, b T) q.C\x7d\n") = .ok file ∧
    file.types.map (fun spec => (spec.pos, spec.name)) = [(⟨3, 12⟩, "T"), (⟨5, 6⟩, "S")] ∧
    ∀ spec ∈ file.types, ∀ part ∈ spec.type.parts, part.Written (NameStands
      (Parser.withoutMark ("\ufeffpackage p\n/* c\n d */ type T struct\x7bA, B int `k\nv`; *q.C\x7d\n" ++
        "type S interface\x7bM(a, b T) q.C\x7d\n").toList)) := by
  generalize spelled : "\ufeffpackage p\n/* c\n d */ type T struct\x7bA, B int `k\nv`; *q.C\x7d\n" ++
    "type S interface\x7bM(a, b T) q.C\x7d\n" = text
  have found : ((ofPath (.ofString "a.go") text).toOption.any fun file =>
      decide (file.types.map (fun spec => (spec.pos, spec.name)) = [(⟨3, 12⟩, "T"), (⟨5, 6⟩, "S")])) = true := by
    rw [← spelled]
    decide +kernel
  cases done : ofPath (.ofString "a.go") text with
  | error failure =>
    rw [done] at found
    cases found
  | ok file =>
    rw [done] at found
    exact ⟨file, rfl, of_decide_eq_true found, fun spec declared => (ofPath_places done spec declared).2⟩

end Source

end GoIdl.Syntax
