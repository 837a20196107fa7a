import GoIdl.Proofs.Syntax.Appending

/-!
# Texts of skipped declarations

What a skipped declaration expects depends on the brackets that are open, but its tokens do not, so
that a text can be taken apart before it is read.
-/

namespace GoIdl.Syntax

open GoIdl.Syntax.Parser (skipFirst skipWords skipKeywords Bracket Skipped Skips Skippable Remains Mode)

variable {accepted : List Terminal} {s rest text : List Char} {t : Terminal} {lexeme : Lexeme}

/-! ### Lexemes -/

/-- A token is scanned among the accepted ones, or it is a line break. -/
theorem mem_of_scan (found : scan accepted s = some (.token t text, rest)) : t = .newline ∨ t ∈ accepted := by
  have read {spellings : List (String × Terminal)} {u : Terminal} (listed : u ∈ accepted) :
      reading spellings accepted text u ∈ accepted := by
    unfold reading
    split
    · rename_i hit
      have held := List.find?_some hit
      simp only [Bool.and_eq_true, List.contains_iff_mem] at held
      exact held.2
    · exact listed
  unfold scan at found
  split at found
  · cases found
  · split at found
    · rename_i u _ _ hit
      cases found
      obtain ⟨v, member, matched⟩ := List.exists_of_findSome?_eq_some hit
      obtain ⟨_, -, same⟩ := Option.map_eq_some_iff.mp matched
      cases same
      have listed : u ∈ accepted := List.contains_iff_mem.mp (List.mem_filter.mp member).2
      cases u with
      | name | operator => exact .inr (read listed)
      | _ => exact .inr listed
    · split at found
      · cases found
      · split at found
        · cases found
          exact .inl rfl
        · obtain ⟨⟨word, u⟩, member, matched⟩ := List.exists_of_findSome?_eq_some found
          dsimp only at matched
          split at matched
          · cases matched
            exact .inr (List.contains_iff_mem.mp (List.mem_filter.mp member).2)
          · cases matched

/-- Comments, blanks and line breaks are the same, whatever is accepted. -/
theorem scan_space (found : scan accepted s = some (lexeme, rest))
    (space : ∀ t text, lexeme = .token t text → t = .newline) (accepted' : List Terminal) :
    scan accepted' s = some (lexeme, rest) := by
  obtain ⟨c, more, rfl⟩ := List.exists_cons_of_ne_nil (Parser.Reading.ne_nil_of_scan found)
  cases comment : comment? (c :: more) with
  | some parts =>
    rw [scan_comment accepted comment] at found
    rw [scan_comment accepted' comment, found]
  | none =>
    by_cases layout : isLayout c = true
    · rw [scan_layout layout] at found ⊢
      exact found
    · obtain ⟨t, text, rfl⟩ := scan_solid comment (by simpa using layout) found
      obtain rfl := space t text rfl
      obtain rfl := scan_newline_text found
      rw [scan_append found]
      exact scan_lineBreak

/-! ### Tokens of skipped declarations -/

/-- What is told apart somewhere in a skipped declaration. -/
def skipTerminals : List Terminal := [.rightBrace, .rightParen, .rightBracket, .semicolon] ++ skipFirst

theorem skipped_of_mem (member : t ∈ skipTerminals) : Skipped t := by
  have kinds : ∀ t ∈ skipTerminals, t ∈ skipWords ∨ t = .semicolon ∨
      t ∈ [Bracket.paren.opener, Bracket.square.opener, Bracket.brace.opener] ∨
        t ∈ [Bracket.paren.closer, Bracket.square.closer, Bracket.brace.closer] := by
    decide
  rcases kinds t member with word | rfl | opener | closer
  · exact .word word
  · exact .semicolon
  · simp only [List.mem_cons, List.not_mem_nil, or_false] at opener
    rcases opener with rfl | rfl | rfl <;> exact .opener _
  · simp only [List.mem_cons, List.not_mem_nil, or_false] at closer
    rcases closer with rfl | rfl | rfl <;> exact .closer _

/-- What is expected somewhere in a skipped declaration: its words and signs and opening brackets
always, closing brackets and semicolons at some places. -/
structure SkipPlace (accepted : List Terminal) : Prop where
  always : ∀ t ∈ skipFirst, t ∈ accepted
  nothingElse : ∀ t ∈ accepted, t ∈ skipTerminals

theorem skipPlace_of_skips {file : SourceFile} {stack : List Bracket} {mode : Mode}
    (skips : Skips file stack mode) :
    SkipPlace mode.expects := by
  cases skips with
  | start => exact ⟨by simp only [Mode.expects]; decide, by simp only [Mode.expects]; decide⟩
  | opened b => cases b <;> exact ⟨by simp only [Mode.expects]; decide, by simp only [Mode.expects]; decide⟩
  | within => exact ⟨by simp only [Mode.expects]; decide, by simp only [Mode.expects]; decide⟩

theorem skipPlace_skipTerminals : SkipPlace skipTerminals := ⟨by decide, fun _ member => member⟩

namespace SkipPlace

variable (place : SkipPlace accepted)

include place

theorem patterned_eq : patterned.filter accepted.contains = patterned := by
  have listed : ∀ t ∈ patterned, t ∈ skipFirst := by decide
  exact List.filter_eq_self.mpr fun t member => List.contains_iff_mem.mpr (place.always t (listed t member))

theorem classify_eq (t : Terminal) (text : List Char) : classify accepted t text = t := by
  have reads (spellings : List (String × Terminal)) (others : ∀ e ∈ spellings, e.2 ∉ skipTerminals) :
      reading spellings accepted text t = t := by
    unfold reading
    rw [List.find?_eq_none.mpr]
    rintro ⟨word, u⟩ member held
    simp only [Bool.and_eq_true, List.contains_iff_mem] at held
    exact others _ member (place.nothingElse u held.2)
  cases t with
  | name => exact reads Terminal.keywords (by decide)
  | operator => exact reads Terminal.signs (by decide)
  | _ => rfl

theorem mem_spelled_iff {entry : String × Terminal} :
    entry ∈ spelled accepted ↔ entry ∈ Terminal.brackets ∧ entry.2 ∈ accepted := by
  have named : accepted.contains .name = true := List.contains_iff_mem.mpr (place.always _ (by decide))
  have operates : accepted.contains .operator = true := List.contains_iff_mem.mpr (place.always _ (by decide))
  rw [spelled, named, operates, List.mem_filter, List.contains_iff_mem]
  rfl

theorem spelled_eq {lexeme : Lexeme}
    (found : ((spelled skipTerminals).findSome? fun (word, t) =>
      if word.toList.isPrefixOf s then some (Lexeme.token t word.toList, s.drop word.toList.length)
      else none) = some (lexeme, rest))
    (expected : ∀ t text, lexeme = .token t text → t = .newline ∨ t ∈ accepted) :
    ((spelled accepted).findSome? fun (word, t) =>
      if word.toList.isPrefixOf s then some (Lexeme.token t word.toList, s.drop word.toList.length)
      else none) = some (lexeme, rest) := by
  have unique : ∀ e ∈ Terminal.brackets, ∀ f ∈ Terminal.brackets,
      e.1.toList.head? = f.1.toList.head? → e = f := by
    decide
  have filled : ∀ e ∈ Terminal.brackets, e.2 ≠ .newline ∧ e.1.toList ≠ [] := by decide
  obtain ⟨⟨word, t⟩, member, read⟩ := List.exists_of_findSome?_eq_some found
  dsimp only at read
  split at read
  · rename_i starts
    cases read
    have starts := List.isPrefixOf_iff_prefix.mp starts
    have bracket := (skipPlace_skipTerminals.mem_spelled_iff.mp member).1
    have listed := (expected t _ rfl).resolve_left (filled _ bracket).1
    have nonempty : s ≠ [] := by
      rintro rfl
      exact (filled _ bracket).2 (List.prefix_nil.mp starts)
    obtain ⟨c, more, rfl⟩ := List.exists_cons_of_ne_nil nonempty
    refine findSome?_spelled (place.mem_spelled_iff.mpr ⟨bracket, listed⟩) starts fun entry other begins => ?_
    refine unique _ (place.mem_spelled_iff.mp other).1 _ bracket ?_
    rw [head_of_spelled other begins, head_of_spelled member starts]
  · cases read

/-- What is expected is scanned wherever it is expected. -/
theorem scan (found : scan skipTerminals s = some (lexeme, rest))
    (expected : ∀ t text, lexeme = .token t text → t = .newline ∨ t ∈ accepted) :
    Syntax.scan accepted s = some (lexeme, rest) := by
  have all := skipPlace_skipTerminals
  unfold Syntax.scan at found ⊢
  rw [place.patterned_eq]
  rw [all.patterned_eq] at found
  simp only [place.classify_eq]
  simp only [all.classify_eq] at found
  split
  · rename_i comment
    rw [comment] at found
    exact found
  · rename_i comment
    rw [comment] at found
    dsimp only at found
    split
    · rename_i hit
      rw [hit] at found
      exact found
    · rename_i hit
      rw [hit] at found
      dsimp only at found
      split
      · rename_i layout
        rw [layout] at found
        exact found
      · rename_i layout
        rw [layout] at found
        dsimp only at found
        split
        · exact found
        · rename_i line
          split at found
          · exact absurd rfl (line _)
          · exact place.spelled_eq found expected

end SkipPlace

/-- The tokens of a skipped declaration in its text and the line breaks between them, wherever they are
said to stand. -/
inductive Lexes : List Char → List Token → Prop where
  | nil : Lexes [] []
  | comment {s text rest : List Char} {raw : List Token}
      (found : scan skipTerminals s = some (.comment text, rest)) (later : Lexes rest raw) : Lexes s raw
  | layout {s text rest : List Char} {raw : List Token}
      (found : scan skipTerminals s = some (.layout text, rest)) (later : Lexes rest raw) : Lexes s raw
  | token {s text rest : List Char} {raw : List Token} {t : Terminal} (pos : Position)
      (found : scan skipTerminals s = some (.token t text, rest)) (later : Lexes rest raw) :
      Lexes s (⟨t, String.ofList text, pos⟩ :: raw)

/-- The text reads as the terminals, up to a semicolon that may be left out at the end of a line. -/
def Spells (s : String) (w : List Terminal) : Prop :=
  ∃ raw, Lexes s.toList raw ∧ (insertSemicolons none raw).map (·.terminal) = w ++ [.semicolon]

/-! ### Inserted semicolons -/

theorem terminals_atEnd (last : Option Token) : (atEnd last).toList.map (·.terminal) =
    if last.any Token.endsStatement then [.semicolon] else [] := by
  cases last with
  | none => rfl
  | some t => cases ends : t.endsStatement <;> simp [atEnd, Option.filter, ends, semicolonAt]

/-- Only whether the last token ends a statement counts for the semicolons behind it. -/
theorem insertSemicolons_congr {last last' : Option Token}
    (same : last.any Token.endsStatement = last'.any Token.endsStatement) (raw : List Token) :
    (insertSemicolons last raw).map (·.terminal) = (insertSemicolons last' raw).map (·.terminal) := by
  induction raw with
  | nil => rw [insertSemicolons, insertSemicolons, terminals_atEnd, terminals_atEnd, same]
  | cons t raw ih =>
    have after : afterToken last t = afterToken last' t := by rw [afterToken, afterToken, same]
    rw [insertSemicolons, insertSemicolons, after]
    split
    · rfl
    · exact ih

/-! ### A text for all tokens -/

/-- The text is one token by itself. -/
def Alone (t : Token) : Prop := scan skipTerminals t.text.toList = some (.token t.terminal t.text.toList, [])

/-- Tokens with a blank before each, and a semicolon behind them. -/
def spaced (tokens : List Token) : List Char :=
  tokens.flatMap (fun t => ' ' :: t.text.toList) ++ [' ', ';']

theorem scan_layout_solid {c : Char} (solid : isLayout c = false) :
    scan accepted (' ' :: c :: rest) = some (.layout [' '], c :: rest) := by
  rw [scan_layout (by decide), List.takeWhile_cons_of_neg (by simp [solid]),
    List.dropWhile_cons_of_neg (by simp [solid])]

theorem Alone.solid {t : Token} (alone : Alone t) :
    ∃ c more, t.text.toList = c :: more ∧ isLayout c = false := by
  obtain ⟨c, more, letters⟩ := List.exists_cons_of_ne_nil (Parser.Reading.ne_nil_of_scan alone)
  refine ⟨c, more, letters, ?_⟩
  by_contra layout
  rw [Alone, letters, scan_layout (by simpa using layout)] at alone
  cases alone

theorem lexes_spaced {tokens : List Token} (alone : ∀ t ∈ tokens, Alone t) :
    Lexes (spaced tokens) (tokens ++ [semicolonAt ⟨1, 1⟩]) := by
  induction tokens with
  | nil => exact .layout (scan_layout_solid (by decide)) (.token _ rfl .nil)
  | cons t tokens ih =>
    have here : Alone t := alone t List.mem_cons_self
    have later := ih fun u member => alone u (List.mem_cons_of_mem _ member)
    obtain ⟨c, more, letters, solid⟩ := here.solid
    obtain ⟨rest, begins⟩ : ∃ rest, spaced tokens = ' ' :: rest := by
      cases tokens <;> exact ⟨_, rfl⟩
    have whole : spaced (t :: tokens) = ' ' :: (t.text.toList ++ ' ' :: rest) := by
      rw [← begins, spaced, List.flatMap_cons, List.append_assoc]
      rfl
    have scanned := scan_ahead (show isGap ' ' = true by decide) here (.inr ⟨_, _, rfl⟩) rest
    rw [List.nil_append, ← begins] at scanned
    have token : Lexes (t.text.toList ++ ' ' :: rest) (t :: (tokens ++ [semicolonAt ⟨1, 1⟩])) := by
      rw [← begins]
      simpa using Lexes.token t.pos scanned later
    have blank : scan skipTerminals (' ' :: (t.text.toList ++ ' ' :: rest)) =
        some (.layout [' '], t.text.toList ++ ' ' :: rest) := by
      rw [letters]
      exact scan_layout_solid solid
    rw [whole]
    exact .layout blank token

theorem insertSemicolons_closed {tokens : List Token} (single : ∀ t ∈ tokens, t.terminal ≠ .newline)
    (last : Option Token) (pos : Position) :
    insertSemicolons last (tokens ++ [semicolonAt pos]) = tokens ++ [semicolonAt pos] := by
  induction tokens generalizing last with
  | nil => rfl
  | cons t tokens ih =>
    rw [List.cons_append, insertSemicolons, afterToken, if_neg (single t List.mem_cons_self)]
    exact congrArg (t :: ·) (ih (fun u member => single u (List.mem_cons_of_mem _ member)) _)

/-- One of the shortest texts of a token. -/
def shortest : Terminal → List Char
  | .name => ['a']
  | .number => ['0']
  | .string => ['"', '"']
  | .rawString => ['`', '`']
  | .rune => ['\'', 'a', '\'']
  | .operator => ['+']
  | t => ((signMarks.find? (·.2 == t)).map (·.1)).toList

theorem alone_shortest (skipped : Skipped t) (pos : Position) :
    Alone ⟨t, String.ofList (shortest t), pos⟩ := by
  unfold Alone
  rw [String.toList_ofList]
  cases skipped with
  | word listed =>
    simp only [skipWords, List.mem_cons, List.not_mem_nil, or_false] at listed
    rcases listed with rfl | rfl | rfl | rfl | rfl | rfl <;> rfl
  | semicolon => rfl
  | opener b | closer b => cases b <;> rfl

theorem Parser.Skipped.ne_newline (skipped : Skipped t) : t ≠ .newline := by
  cases skipped with
  | word listed =>
    have words : ∀ t ∈ skipWords, t ≠ .newline := by decide
    exact words t listed
  | semicolon => nofun
  | opener b | closer b => cases b <;> nofun

theorem exists_spells {w : List Terminal} (all : ∀ t ∈ w, Skipped t) : ∃ s, Spells s w := by
  let tokens : List Token := w.map fun t => ⟨t, String.ofList (shortest t), ⟨1, 1⟩⟩
  have alone : ∀ t ∈ tokens, Alone t := by
    intro t member
    obtain ⟨u, inside, rfl⟩ := List.mem_map.mp member
    exact alone_shortest (all u inside) _
  have plain : ∀ t ∈ tokens, t.terminal ≠ .newline := by
    intro t member
    obtain ⟨u, inside, rfl⟩ := List.mem_map.mp member
    exact (all u inside).ne_newline
  refine ⟨String.ofList (spaced tokens), tokens ++ [semicolonAt ⟨1, 1⟩], ?_, ?_⟩
  · rw [String.toList_ofList]
    exact lexes_spaced alone
  · rw [insertSemicolons_closed plain, List.map_append, List.map_map]
    exact congrArg (· ++ [.semicolon]) (List.map_id w)

namespace Parser

theorem mem_expects {docs : Nat → String} {mode : Mode} {t : Token} {step : Step}
    (advanced : advance docs mode t = .ok step) : t.terminal ∈ mode.expects := by
  unfold advance at advanced
  split at advanced
  · rename_i listed
    exact List.contains_iff_mem.mp listed
  · cases advanced

/-- Where the token that a token stands for is said to stand does not count. -/
theorem afterToken_moved (last : Option Token) (t : Token) (pos : Position) :
    afterToken last { t with pos } = (afterToken last t).map fun v => { v with pos } := by
  unfold afterToken
  dsimp only
  split
  · split <;> rfl
  · rfl

theorem Remains.place {file : SourceFile} {mode : Mode} {ts : List Terminal}
    (remains : Remains file (t :: ts) mode) :
    SkipPlace mode.expects := by
  generalize whole : t :: ts = left at remains
  cases remains with
  | inside skips => exact skipPlace_of_skips skips
  | behind => cases whole

namespace Reading

variable {r q : Reading} {file : SourceFile} {raw : List Token}

/-- The rest of the text ends the file. -/
def Completes (file : SourceFile) (r : Reading) : Prop :=
  ∃ q last, r.Leads q ∧ q.rest = [] ∧ q.finish = .ok last ∧ last.mode = .done file ∧ last.fault = none

theorem Completes.step (shorter : q.rest.length < r.rest.length) (stepped : r.step = .ok q)
    (completes : q.Completes file) : r.Completes file := by
  obtain ⟨p, last, leads, facts⟩ := completes
  exact ⟨p, last, .step shorter stepped leads, facts⟩

theorem step_token (found : scan r.mode.expects r.rest = some (.token t text, rest))
    (emitted : r.emit ⟨t, String.ofList text, r.pos⟩ = .ok q) : r.step = .ok (q.move text rest) := by
  unfold Reading.step
  rw [found]
  exact bind_eq_ok.mpr ⟨q, emitted, rfl⟩

theorem finish_remains (remains : Remains file ((atEnd r.last).toList.map (·.terminal)) r.mode)
    (sound : r.fault = none) : ∃ last, r.finish = .ok last ∧ last.mode = .done file ∧ last.fault = none := by
  have ended (r : Reading) (decls : r.mode = .decls file) (sound : r.fault = none) :
      ∃ last, r.feed r.endToken = .ok last ∧ last.mode = .done file ∧ last.fault = none := by
    have advanced : advance (Comment.above r.comments) r.mode r.endToken = goto (.done file) := by
      rw [decls]
      rfl
    exact ⟨_, feed_goto advanced, rfl, sound⟩
  unfold Reading.finish
  cases closing : atEnd r.last with
  | none =>
    rw [closing] at remains
    exact ended r remains.ended sound
  | some v =>
    obtain ⟨t, -, rfl⟩ := Option.map_eq_some_iff.mp closing
    rw [closing] at remains
    obtain ⟨next, advanced, done⟩ := remains.advance .semicolon (Comment.above r.comments) ";" t.pos
    obtain ⟨last, fed, facts⟩ := ended { r with mode := next, last := _ } done.ended sound
    exact ⟨last, bind_eq_ok.mpr ⟨_, feed_goto advanced, fed⟩, facts⟩

/-- A token on the way to the end of the declaration leads on. -/
theorem emit_remains {token : Token} (known : token.terminal = .newline ∨ Skipped token.terminal)
    (remains : Remains file ((insertSemicolons r.last (token :: raw)).map (·.terminal)) r.mode)
    (sound : r.fault = none) : ∃ q, r.emit { token with pos := r.pos } = .ok q ∧ q.fault = none ∧
      Remains file ((insertSemicolons q.last raw).map (·.terminal)) q.mode := by
  unfold Reading.emit
  rw [afterToken_moved]
  rw [insertSemicolons] at remains
  cases after : afterToken r.last token with
  | none =>
    rw [after] at remains
    exact ⟨r, rfl, sound, remains⟩
  | some v =>
    rw [after] at remains
    have skipped : Skipped v.terminal := by
      unfold afterToken at after
      split at after
      · split at after <;> cases after
        exact .semicolon
      · rename_i other
        cases after
        exact known.resolve_left other
    obtain ⟨next, advanced, later⟩ := remains.advance skipped (Comment.above r.comments) v.text r.pos
    have moved : (some { v with pos := r.pos }).any Token.endsStatement = (some v).any Token.endsStatement := rfl
    rw [← insertSemicolons_congr moved] at later
    exact ⟨_, feed_goto advanced, sound, later⟩

/-- A text whose tokens lead to the end of the declaration is read to the end. -/
theorem completes_of_remains (lexes : Lexes s raw) (here : r.rest = s) (sound : r.fault = none)
    (remains : Remains file ((insertSemicolons r.last raw).map (·.terminal)) r.mode) : r.Completes file := by
  induction lexes generalizing r with
  | nil =>
    obtain ⟨last, finished, facts⟩ := finish_remains remains sound
    exact ⟨r, last, .refl r, here, finished, facts⟩
  | @comment s text rest raw found _ ih =>
    have scanned : scan r.mode.expects r.rest = some (.comment text, rest) := by
      rw [here]
      exact scan_space found nofun _
    have stepped : r.step = .ok ({ r with comments := r.comments ++ [r.commentAt text] }.move text rest) := by
      unfold Reading.step
      rw [scanned]
    exact .step (scan_length_lt scanned) stepped (ih rfl sound remains)
  | @layout s text rest raw found _ ih =>
    have scanned : scan r.mode.expects r.rest = some (.layout text, rest) := by
      rw [here]
      exact scan_space found nofun _
    have stepped : r.step = .ok (r.move text rest) := by
      unfold Reading.step
      rw [scanned]
    exact .step (scan_length_lt scanned) stepped (ih rfl sound remains)
  | @token s text rest raw t pos found _ ih =>
    have scanned : scan r.mode.expects r.rest = some (.token t text, rest) := by
      rw [here]
      by_cases line : t = .newline
      · exact scan_space found (fun _ _ same => by cases same; exact line) _
      · rw [insertSemicolons, afterToken, if_neg line] at remains
        have skipped := skipped_of_mem ((mem_of_scan found).resolve_left line)
        obtain ⟨next, advanced, -⟩ := remains.advance skipped (Comment.above r.comments) "" pos
        exact remains.place.scan found fun _ _ same => by cases same; exact .inr (mem_expects advanced)
    obtain ⟨q, emitted, clean, later⟩ := emit_remains ((mem_of_scan found).imp_right skipped_of_mem)
      remains sound
    exact .step (scan_length_lt scanned) (step_token scanned emitted) (ih rfl clean later)

theorem completes_of_skippable {word : String} {keyword : Terminal} {w : List Terminal} {s : List Char}
    (known : (word, keyword) ∈ skipKeywords) (place : r.AtDeclaration file (word.toList ++ s))
    (lexes : Lexes s raw)
    (listed : (insertSemicolons none raw).map (·.terminal) = w ++ [.semicolon]) (skippable : Skippable w) :
    r.Completes file := by
  obtain ⟨filled, taken⟩ := Parser.skippable_iff.mp skippable
  have scanned : scan r.mode.expects r.rest = some (.token keyword word.toList, s) := by
    have known := known
    simp only [skipKeywords, List.mem_cons, List.not_mem_nil, or_false, Prod.mk.injEq] at known
    rw [place.rest]
    rcases place.mode with mode | mode <;> rw [mode] <;>
      rcases known with ⟨rfl, rfl⟩ | ⟨rfl, rfl⟩ | ⟨rfl, rfl⟩ <;> rfl
  let token : Token := ⟨keyword, String.ofList word.toList, r.pos⟩
  have plain : ∀ entry ∈ skipKeywords, entry.2 ≠ .newline ∧
      ∀ text pos, Token.endsStatement ⟨entry.2, text, pos⟩ = false := by
    simp [skipKeywords, Token.endsStatement]
  have emitted : r.emit token = .ok { r with mode := .skipStart file, last := some token } := by
    rw [Reading.emit, afterToken, if_neg (plain _ known).1]
    exact feed_goto (advance_keyword known place.mode)
  refine .step (scan_length_lt scanned) (step_token scanned emitted)
    (completes_of_remains lexes rfl place.sound ?_)
  have open' : (some token).any Token.endsStatement = (none : Option Token).any Token.endsStatement :=
    (plain _ known).2 _ _
  change Remains file ((insertSemicolons (some token) raw).map (·.terminal)) (.skipStart file)
  rw [insertSemicolons_congr open', listed]
  exact .inside .start taken fun _ => filled

end Reading

/-- A text that leads to the end of a file is that file. -/
theorem parse_of_completes {source : List Char} {file : SourceFile}
    (completes : (Reading.start source).Completes file) :
    ∃ parsed, parse source = .ok parsed ∧ parsed.file = .ok file := by
  obtain ⟨q, last, leads, empty, finished, mode, sound⟩ := completes
  have ran : (Reading.start source).run source.length = .ok q := leads.run empty (Nat.le_refl _)
  refine ⟨⟨last.comments, .ok file⟩, bind_eq_ok.mpr ⟨q, ran, bind_eq_ok.mpr ⟨last, finished, ?_⟩⟩, rfl⟩
  simp only [mode, sound]
  rfl

theorem ended_of_parse {source : List Char} {parsed : Parsed} {file : SourceFile}
    (read : parse source = .ok parsed) (whole : parsed.file = .ok file) :
    ∃ q last, (Reading.start source).run source.length = .ok q ∧ q.finish = .ok last ∧
      last.mode = .done file ∧ last.fault = none := by
  obtain ⟨q, ran, read⟩ := bind_eq_ok.mp read
  obtain ⟨last, finished, read⟩ := bind_eq_ok.mp read
  refine ⟨q, last, ran, finished, ?_⟩
  split at read
  · cases read
    cases whole
  · rename_i sound mode
    cases read
    cases whole
    exact ⟨mode, sound⟩
  · cases read

theorem withoutMark_append (source more : List Char) :
    withoutMark (source ++ '\n' :: more) = withoutMark source ++ '\n' :: more := by
  cases source with
  | nil => rfl
  | cons c source =>
    by_cases mark : c = '\ufeff'
    · rw [mark]
      rfl
    · rw [withoutMark_of_ne mark]
      exact withoutMark_of_ne mark _

end Parser

/-! ### Sources with a skipped declaration behind -/

namespace Source

/-- A skipped declaration on a line behind a source changes nothing. -/
theorem ofPath_appended {path : Disk.Path} {source : String} {file : SourceFile}
    (read : ofPath path source = .ok file) {word : String} {keyword : Terminal}
    (known : (word, keyword) ∈ skipKeywords) {s : String} {raw : List Token} {w : List Terminal}
    (lexes : Lexes s.toList raw)
    (listed : (insertSemicolons none raw).map (·.terminal) = w ++ [.semicolon]) (skippable : Skippable w) :
    ofPath path (source ++ "\n" ++ word ++ s) = .ok file := by
  obtain ⟨parsed, parsing, read⟩ := bind_eq_ok.mp read
  obtain ⟨content, whole, placed⟩ := bind_eq_ok.mp read
  obtain ⟨q, last, ran, finished, mode, sound⟩ :=
    Parser.ended_of_parse (mapError_eq_ok.mp parsing) (mapError_eq_ok.mp whole)
  obtain ⟨-, toEnd⟩ := (Parser.Reading.start (Parser.withoutMark source.toList)).leads_ahead
    (Nat.le_refl _) ran (word.toList ++ s.toList)
  obtain ⟨r, toLine, place⟩ := Parser.Reading.leads_lineBreak finished mode sound (word.toList ++ s.toList)
  obtain ⟨p, last, toDone, facts⟩ := Parser.Reading.completes_of_skippable known place lexes listed skippable
  have completes : (Parser.Reading.start
      (Parser.withoutMark source.toList ++ '\n' :: (word.toList ++ s.toList))).Completes content :=
    ⟨p, last, (toEnd.trans toLine).trans toDone, facts⟩
  obtain ⟨parsed, parsing, whole⟩ := Parser.parse_of_completes completes
  have letters : (source ++ "\n" ++ word ++ s).toList =
      source.toList ++ '\n' :: (word.toList ++ s.toList) := by
    simp [String.toList_append]
  have parses : parse path (source ++ "\n" ++ word ++ s) = .ok parsed := by
    refine mapError_eq_ok.mpr ?_
    rw [letters, Parser.withoutMark_append]
    exact parsing
  exact bind_eq_ok.mpr ⟨parsed, parses, bind_eq_ok.mpr ⟨content, mapError_eq_ok.mpr whole, placed⟩⟩

/-- Behind a package clause, a skipped declaration is read exactly if its brackets are nested, with
semicolons between brackets only, and it is not empty. It declares nothing there. Behind any other source,
on a line of its own, it changes nothing. -/
theorem skipped_exactly :
    (∀ keyword ∈ skipKeywords, ∀ w, (∀ t ∈ w, Skipped t) →
      ∀ tokens, tokens.map Token.terminal = Parser.declaration keyword.2 w →
        ((∃ file, Parser.fileOf? tokens = some file) ↔ Skippable w) ∧
          ∀ file, Parser.fileOf? tokens = some file → file.imports = [] ∧ file.types = []) ∧
    (∀ w, (∀ t ∈ w, Skipped t) → ∃ s, Spells s w) ∧
    ∀ path source file, ofPath path source = .ok file →
      ∀ keyword ∈ skipKeywords, ∀ w s, Skippable w → Spells s w →
        ofPath path (source ++ "\n" ++ keyword.1 ++ s) = .ok file := by
  refine ⟨fun keyword known w all tokens listed => ⟨⟨?_, ?_⟩, ?_⟩, fun w all => exists_spells all, ?_⟩
  · rintro ⟨file, read⟩
    exact Parser.skippable_of_fileOf? known all listed read
  · intro skippable
    obtain ⟨file, read, -⟩ := Parser.fileOf?_of_skippable known all listed skippable
    exact ⟨file, read⟩
  · intro file read
    have skippable := Parser.skippable_of_fileOf? known all listed read
    obtain ⟨file', read', nothing⟩ := Parser.fileOf?_of_skippable known all listed skippable
    rw [read] at read'
    cases read'
    exact nothing
  · intro path source file read keyword known w s skippable spells
    obtain ⟨raw, lexes, listed⟩ := spells
    exact ofPath_appended read known lexes listed skippable

end Source

end GoIdl.Syntax
