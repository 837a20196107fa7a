import GoIdl.Proofs.Syntax.Progress
import Mathlib.Data.List.Infix

/-!
# Where semicolons are inserted

Whether a semicolon is put behind a token depends on this token and the next one only, however many
line breaks there are and whatever has been inserted before. The reader goes by these tokens: feeding
what stands for a token as soon as it has been scanned comes to feeding them all.
-/

namespace GoIdl.Syntax

variable {t : Token} {last : Option Token} {tokens rest breaks before after : List Token}

/-- The terminals that end a statement whatever their text. -/
def closers : List Terminal :=
  [.name, .number, .string, .rawString, .rune, .rightParen, .rightBracket, .rightBrace]

/-- A token that can end a statement: of one of these terminals, or an operator that ends in a step. -/
def Token.Closes (t : Token) : Prop :=
  t.terminal ∈ closers ∨
    t.terminal = .operator ∧ ("++".toList <:+ t.text.toList ∨ "--".toList <:+ t.text.toList)

instance (t : Token) : Decidable t.Closes :=
  inferInstanceAs (Decidable (t.terminal ∈ closers ∨
    t.terminal = .operator ∧ ("++".toList <:+ t.text.toList ∨ "--".toList <:+ t.text.toList)))

/-- Whether a line break comes next, or nothing at all. -/
def atLineEnd (rest : List Token) : Bool := rest.head?.all (·.terminal == .newline)

/-- The semicolon that is inserted behind a token, at the line break or else at the token itself. -/
def inserted (t : Token) (rest : List Token) : List Token :=
  if t.Closes ∧ atLineEnd rest then [semicolonAt (rest.headD t).pos] else []

/-- What stands for the first of the tokens in the output. -/
def standing : List Token → List Token
  | [] => []
  | t :: rest => if t.terminal = .newline then [] else t :: inserted t rest

/-- A token without its place. -/
def Token.shape (t : Token) : Terminal × String := (t.terminal, t.text)

/-! ### Tokens that end a statement -/

theorem endsInStep_iff {s : String} :
    endsInStep s = true ↔ "++".toList <:+ s.toList ∨ "--".toList <:+ s.toList := by
  have reversed : ∀ c : Char, [c, c] <:+ s.toList ↔ ∃ more, s.toList.reverse = c :: c :: more := by
    intro c
    rw [← List.reverse_prefix]
    constructor
    · rintro ⟨more, same⟩
      exact ⟨more, same.symm⟩
    · rintro ⟨more, same⟩
      exact ⟨more, same.symm⟩
  have steps : "++".toList = ['+', '+'] ∧ "--".toList = ['-', '-'] := by decide
  rw [steps.1, steps.2, reversed, reversed]
  unfold endsInStep
  split
  · rename_i more same
    simp [same]
  · rename_i more same
    simp [same]
  · rename_i plus minus
    simp only [Bool.false_eq_true, false_iff, not_or, not_exists]
    exact ⟨plus, minus⟩

theorem Token.endsStatement_iff : t.endsStatement = true ↔ t.Closes := by
  unfold Token.Closes Token.endsStatement
  cases terminal : t.terminal
  case operator => simp [closers, endsInStep_iff]
  all_goals simp [closers]

theorem semicolonAt_open (pos : Position) : ¬ (semicolonAt pos).Closes := by
  rw [← Token.endsStatement_iff]
  exact Bool.false_ne_true

theorem inserted_open (opened : ¬ t.Closes) (rest : List Token) : inserted t rest = [] :=
  if_neg fun both => opened both.1

/-! ### One token and the next -/

theorem atEnd_eq (last : Option Token) : (atEnd last).toList = last.elim [] (inserted · []) := by
  cases last with
  | none => rfl
  | some t =>
    by_cases closes : t.Closes
    · have ends := Token.endsStatement_iff.mpr closes
      simp [atEnd, inserted, Option.filter, ends, closes, atLineEnd]
    · have ends := mt Token.endsStatement_iff.mp closes
      simp [atEnd, inserted_open closes, Option.filter, ends]

/-- A semicolon that has been inserted closes nothing, so that what has gone before the last token
does not count. -/
theorem insertSemicolons_eq (last : Option Token) (tokens : List Token) :
    insertSemicolons last tokens =
      last.elim [] (inserted · tokens) ++ tokens.tails.flatMap standing := by
  induction tokens generalizing last with
  | nil => simp [insertSemicolons, atEnd_eq, standing]
  | cons t rest ih =>
    rw [insertSemicolons, List.tails_cons, List.flatMap_cons, standing]
    by_cases line : t.terminal = .newline
    · cases last with
      | none => simp [afterToken, line, ih]
      | some u =>
        by_cases closes : u.Closes
        · have ends := Token.endsStatement_iff.mpr closes
          simp [afterToken, line, ih, ends, inserted, closes, semicolonAt_open, atLineEnd]
        · have ends := mt Token.endsStatement_iff.mp closes
          simp [afterToken, line, ih, ends, inserted_open closes]
    · have goes_on : ∀ u, inserted u (t :: rest) = [] := by
        intro u
        simp [inserted, atLineEnd, line]
      cases last with
      | none => simp [afterToken, line, ih]
      | some u => simp [afterToken, line, ih, goes_on]

/-! ### Further line breaks -/

theorem standing_breaks (lines : ∀ b ∈ breaks, b.terminal = .newline) (rest : List Token) :
    (breaks ++ rest).tails.flatMap standing = rest.tails.flatMap standing := by
  induction breaks with
  | nil => rfl
  | cons b breaks ih =>
    obtain ⟨line, lines⟩ := List.forall_mem_cons.mp lines
    rw [List.cons_append, List.tails_cons, List.flatMap_cons, standing, if_pos line, ih lines,
      List.nil_append]

/-- Behind a token that closes nothing, or next to a line break or the end, line breaks do not count
but for the place of a semicolon. -/
theorem inserted_breaks (lines : ∀ b ∈ breaks, b.terminal = .newline)
    (idle : ¬ t.Closes ∨ atLineEnd rest = true) :
    (inserted t (breaks ++ rest)).map Token.shape = (inserted t rest).map Token.shape := by
  by_cases closes : t.Closes
  · have ends := idle.resolve_left (not_not_intro closes)
    have ends' : atLineEnd (breaks ++ rest) = true := by
      cases breaks with
      | nil => exact ends
      | cons b breaks => simp [atLineEnd, lines b List.mem_cons_self]
    simp [inserted, closes, ends, ends', semicolonAt, Token.shape]
  · rw [inserted_open closes, inserted_open closes]

theorem standing_amid_breaks (lines : ∀ b ∈ breaks, b.terminal = .newline)
    (idle : (∀ t ∈ before.getLast?, ¬ t.Closes) ∨ atLineEnd after = true) :
    ((before ++ (breaks ++ after)).tails.flatMap standing).map Token.shape =
      ((before ++ after).tails.flatMap standing).map Token.shape := by
  induction before with
  | nil => rw [List.nil_append, List.nil_append, standing_breaks lines]
  | cons t before ih =>
    have here : (standing (t :: (before ++ (breaks ++ after)))).map Token.shape =
        (standing (t :: (before ++ after))).map Token.shape := by
      rw [standing, standing]
      by_cases line : t.terminal = .newline
      · rw [if_pos line, if_pos line]
      · rw [if_neg line, if_neg line, List.map_cons, List.map_cons]
        cases before with
        | nil =>
          have idle : ¬ t.Closes ∨ atLineEnd after = true := idle.imp_left fun open' => open' t rfl
          rw [List.nil_append, List.nil_append, inserted_breaks lines idle]
        | cons u before => rfl
    have later : (∀ u ∈ before.getLast?, ¬ u.Closes) ∨ atLineEnd after = true := by
      refine idle.imp_left fun open' u final => open' u ?_
      cases before with
      | nil => cases final
      | cons v before => exact final
    rw [List.cons_append, List.cons_append, List.tails_cons, List.tails_cons, List.flatMap_cons,
      List.flatMap_cons, List.map_append, List.map_append, here, ih later]

/-! ### The reader -/

namespace Parser.Reading

variable {r q : Reading}

theorem feed_last (fed : r.feed t = .ok q) : q.last = some t := by
  obtain ⟨step, -, rfl⟩ := feed_ok fed
  rfl

/-- Feeding what stands for each token in turn, and then the end, is feeding the whole row. -/
theorem finish_emitted (r : Reading) (tokens : List Token) :
    (tokens.foldlM emit r >>= finish) =
      ((insertSemicolons r.last tokens).foldlM feed r >>= fun q => q.feed q.endToken) := by
  induction tokens generalizing r with
  | nil =>
    show finish r = _
    rw [finish, insertSemicolons]
    cases atEnd r.last with
    | none => rfl
    | some t => exact (congrArg (· >>= _) (bind_pure (r.feed t))).symm
  | cons t tokens ih =>
    rw [List.foldlM_cons, insertSemicolons, emit]
    cases afterToken r.last t with
    | none => exact ih r
    | some u =>
      show (r.feed u >>= tokens.foldlM emit) >>= finish =
        (r.feed u >>= (insertSemicolons (some u) tokens).foldlM feed) >>= fun q => q.feed q.endToken
      cases fed : r.feed u with
      | error fault => rfl
      | ok q =>
        have next := ih q
        rw [feed_last fed] at next
        exact next

end Parser.Reading

/-- Every token but the line breaks is in the output, in order, and directly behind it there is one
inserted semicolon if it can end a statement and a line break or the end of the input comes next, and
none otherwise. So line breaks that are added at the start, behind a token that cannot end a statement
or next to another line break or the end change no token of the output. The output is what the reader
is fed with. -/
theorem insertSemicolons_exactly (tokens : List Token) :
    insertSemicolons none tokens = tokens.tails.flatMap standing ∧
    (∀ before breaks after, tokens = before ++ after → (∀ b ∈ breaks, b.terminal = .newline) →
      ((∀ t ∈ before.getLast?, ¬ t.Closes) ∨ atLineEnd after = true) →
        (insertSemicolons none (before ++ (breaks ++ after))).map Token.shape =
          (insertSemicolons none tokens).map Token.shape) ∧
    ∀ r : Parser.Reading, r.last = none →
      (tokens.foldlM Parser.Reading.emit r >>= Parser.Reading.finish) =
        ((insertSemicolons none tokens).foldlM Parser.Reading.feed r >>=
          fun q => q.feed q.endToken) := by
  have whole : ∀ tokens, insertSemicolons none tokens = tokens.tails.flatMap standing :=
    insertSemicolons_eq none
  refine ⟨whole tokens, ?_, ?_⟩
  · rintro before breaks after rfl lines idle
    rw [whole, whole]
    exact standing_amid_breaks lines idle
  · intro r fresh
    rw [Parser.Reading.finish_emitted, fresh]

/-- A line break behind a comma does not count, and of two behind a name the first does. -/
example : (insertSemicolons none [⟨.comma, ",", ⟨1, 1⟩⟩, ⟨.newline, "\n", ⟨1, 2⟩⟩,
    ⟨.name, "b", ⟨2, 1⟩⟩, ⟨.newline, "\n", ⟨2, 2⟩⟩, ⟨.newline, "\n", ⟨3, 1⟩⟩]) =
      [⟨.comma, ",", ⟨1, 1⟩⟩, ⟨.name, "b", ⟨2, 1⟩⟩, ⟨.semicolon, ";", ⟨2, 2⟩⟩] := by
  decide

end GoIdl.Syntax
