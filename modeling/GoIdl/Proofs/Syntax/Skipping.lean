import GoIdl.Proofs.Syntax.Endings

/-!
# Skipped declarations

What follows the keyword of a skipped declaration is any sequence of words, signs and brackets whose
brackets are nested, with semicolons between brackets only. The grammar is stated without the parser;
the brackets that are open are a stack, which is what the places of reading hold.
-/

namespace GoIdl.Syntax.Parser

variable {b : Bracket} {t : Terminal} {w after : List Terminal} {stack : List Bracket}

/-! ### Nested brackets -/

namespace Bracket

def opener : Bracket → Terminal
  | paren => .leftParen
  | square => .leftBracket
  | brace => .leftBrace

def closed? : Terminal → Option Bracket
  | .rightParen => some paren
  | .rightBracket => some square
  | .rightBrace => some brace
  | _ => none

theorem opened?_eq_some_iff : opened? t = some b ↔ t = b.opener := by
  cases t <;> cases b <;> decide

theorem closed?_eq_some_iff : closed? t = some b ↔ t = b.closer := by
  cases t <;> cases b <;> decide

end Bracket

/-- Neither opens nor closes. -/
def Plain (t : Terminal) : Prop := ∀ b : Bracket, t ≠ b.opener ∧ t ≠ b.closer

/-- Brackets are nested and matched by kind. Anything else may stand between them. -/
inductive Nested : List Terminal → Prop where
  | nil : Nested []
  | plain {t : Terminal} {w : List Terminal} (plain : Plain t) (more : Nested w) : Nested (t :: w)
  | pair (b : Bracket) {inside after : List Terminal} (inner : Nested inside) (more : Nested after) :
      Nested (b.opener :: (inside ++ b.closer :: after))

/-- Every semicolon lies inside a pair of brackets. -/
def Enclosed (w : List Terminal) : Prop :=
  ∀ before after, w = before ++ .semicolon :: after → ∃ (b : Bracket) (outer left right rest : List Terminal),
    before = outer ++ b.opener :: left ∧ after = right ++ b.closer :: rest ∧
      Nested (left ++ .semicolon :: right)

/-- What a skipped declaration may hold. -/
structure Skippable (w : List Terminal) : Prop where
  filled : w ≠ []
  nested : Nested w
  enclosed : Enclosed w

theorem Nested.append (first : Nested w) (second : Nested after) : Nested (w ++ after) := by
  induction first with
  | nil => exact second
  | plain plain _ ih => exact .plain plain ih
  | pair b inner _ _ ih =>
    rw [List.cons_append, List.append_assoc]
    exact .pair b inner ih

/-! ### Open brackets -/

/-- The brackets that are open after a terminal, the innermost first. -/
def after? (stack : List Bracket) (t : Terminal) : Option (List Bracket) :=
  match Bracket.opened? t with
  | some b => some (b :: stack)
  | none =>
    match Bracket.closed? t with
    | none => some stack
    | some b =>
      match stack with
      | [] => none
      | c :: outer => if b = c then some outer else none

def afterAll? (stack : List Bracket) (w : List Terminal) : Option (List Bracket) := w.foldlM after? stack

theorem after?_plain (plain : Plain t) : after? stack t = some stack := by
  have noOpener : Bracket.opened? t = none :=
    Option.eq_none_iff_forall_ne_some.mpr fun b opened => (plain b).1 (Bracket.opened?_eq_some_iff.mp opened)
  have noCloser : Bracket.closed? t = none :=
    Option.eq_none_iff_forall_ne_some.mpr fun b closed => (plain b).2 (Bracket.closed?_eq_some_iff.mp closed)
  simp only [after?, noOpener, noCloser]

theorem after?_opener (b : Bracket) : after? stack b.opener = some (b :: stack) := by
  simp only [after?, Bracket.opened?_eq_some_iff.mpr rfl]

theorem after?_closer (b : Bracket) : after? (b :: stack) b.closer = some stack := by
  cases b <;> rfl

theorem terminal_cases (t : Terminal) :
    Plain t ∨ (∃ b : Bracket, t = b.opener) ∨ ∃ b : Bracket, t = b.closer := by
  cases opened : Bracket.opened? t with
  | some b => exact .inr (.inl ⟨b, Bracket.opened?_eq_some_iff.mp opened⟩)
  | none =>
    cases closed : Bracket.closed? t with
    | some b => exact .inr (.inr ⟨b, Bracket.closed?_eq_some_iff.mp closed⟩)
    | none =>
      refine .inl fun b => ⟨fun same => ?_, fun same => ?_⟩
      · rw [Bracket.opened?_eq_some_iff.mpr same] at opened
        cases opened
      · rw [Bracket.closed?_eq_some_iff.mpr same] at closed
        cases closed

theorem after?_closer_eq_some {left : List Bracket} (taken : after? stack b.closer = some left) :
    stack = b :: left := by
  cases stack with
  | nil => cases b <;> cases taken
  | cons c outer => cases b <;> cases c <;> cases taken <;> rfl

theorem afterAll?_cons : afterAll? stack (t :: w) = (after? stack t).bind fun left => afterAll? left w :=
  List.foldlM_cons

theorem afterAll?_append :
    afterAll? stack (w ++ after) = (afterAll? stack w).bind fun left => afterAll? left after :=
  List.foldlM_append

theorem after?_below {left : List Bracket} (taken : after? stack t = some left) (below : List Bracket) :
    after? (stack ++ below) t = some (left ++ below) := by
  rcases terminal_cases t with plain | ⟨b, rfl⟩ | ⟨b, rfl⟩
  · rw [after?_plain plain] at taken ⊢
    cases taken
    rfl
  · rw [after?_opener] at taken ⊢
    cases taken
    rfl
  · rw [after?_closer_eq_some taken]
    exact after?_closer b

theorem afterAll?_below {left : List Bracket} (taken : afterAll? stack w = some left) (below : List Bracket) :
    afterAll? (stack ++ below) w = some (left ++ below) := by
  induction w generalizing stack with
  | nil =>
    cases taken
    rfl
  | cons t w ih =>
    rw [afterAll?_cons] at taken ⊢
    obtain ⟨next, here, later⟩ := Option.bind_eq_some_iff.mp taken
    rw [after?_below here]
    exact ih later

theorem Nested.afterAll? (nested : Nested w) (stack : List Bracket) : afterAll? stack w = some stack := by
  induction nested generalizing stack with
  | nil => rfl
  | plain plain _ ih => rw [afterAll?_cons, after?_plain plain, Option.bind_some, ih]
  | pair b _ _ inner ih =>
    rw [afterAll?_cons, after?_opener, Option.bind_some, afterAll?_append, inner, Option.bind_some,
      afterAll?_cons, after?_closer, Option.bind_some, ih]

/-- Where all brackets are closed in the end, the innermost one is closed behind something nested. -/
theorem exists_closer (w : List Terminal) : ∀ {b stack}, afterAll? (b :: stack) w = some [] →
    ∃ inside after, w = inside ++ b.closer :: after ∧ Nested inside ∧ afterAll? stack after = some [] := by
  induction length : w.length using Nat.strongRecOn generalizing w with
  | ind n ih =>
    intro b stack closed
    cases w with
    | nil => cases closed
    | cons t w =>
      rw [afterAll?_cons] at closed
      obtain ⟨next, here, later⟩ := Option.bind_eq_some_iff.mp closed
      rw [List.length_cons] at length
      rcases terminal_cases t with plain | ⟨c, rfl⟩ | ⟨c, rfl⟩
      · rw [after?_plain plain] at here
        cases here
        obtain ⟨inside, after, rfl, nested, left⟩ := ih w.length (by omega) w rfl later
        exact ⟨t :: inside, after, rfl, .plain plain nested, left⟩
      · rw [after?_opener] at here
        cases here
        obtain ⟨inner, middle, rfl, nested, left⟩ := ih w.length (by omega) w rfl later
        simp only [List.length_append, List.length_cons] at length
        obtain ⟨inside, after, rfl, others, left⟩ := ih middle.length (by omega) middle rfl left
        exact ⟨c.opener :: (inner ++ c.closer :: inside), after, by simp, .pair c nested others, left⟩
      · obtain ⟨rfl, rfl⟩ := List.cons.inj (after?_closer_eq_some here)
        exact ⟨[], w, rfl, .nil, later⟩

/-- The innermost bracket that is open has been opened in front of something nested. -/
theorem exists_opener (w : List Terminal) : ∀ {b stack}, afterAll? [] w = some (b :: stack) →
    ∃ outer inside, w = outer ++ b.opener :: inside ∧ Nested inside ∧ afterAll? [] outer = some stack := by
  induction length : w.length using Nat.strongRecOn generalizing w with
  | ind n ih =>
    intro b stack opened
    rcases List.eq_nil_or_concat w with rfl | ⟨w, t, rfl⟩
    · cases opened
    · rw [List.concat_eq_append, afterAll?_append] at opened
      obtain ⟨before, first, here⟩ := Option.bind_eq_some_iff.mp opened
      rw [afterAll?_cons] at here
      obtain ⟨next, here, done⟩ := Option.bind_eq_some_iff.mp here
      cases done
      simp only [List.concat_eq_append, List.length_append, List.length_cons] at length ⊢
      rcases terminal_cases t with plain | ⟨c, rfl⟩ | ⟨c, rfl⟩
      · rw [after?_plain plain] at here
        cases here
        obtain ⟨outer, inside, rfl, nested, left⟩ := ih w.length (by omega) w rfl first
        exact ⟨outer, inside ++ [t], by simp, nested.append (.plain plain .nil), left⟩
      · rw [after?_opener] at here
        cases here
        exact ⟨w, [], rfl, .nil, first⟩
      · rw [after?_closer_eq_some here] at first
        obtain ⟨middle, inner, rfl, nested, left⟩ := ih w.length (by omega) w rfl first
        simp only [List.length_append, List.length_cons] at length
        obtain ⟨outer, inside, rfl, others, left⟩ := ih middle.length (by omega) middle rfl left
        exact ⟨outer, inside ++ c.opener :: (inner ++ c.closer :: []), by simp,
          others.append (.pair c nested .nil), left⟩

theorem nested_of_afterAll? (w : List Terminal) (closed : afterAll? [] w = some []) : Nested w := by
  induction length : w.length using Nat.strongRecOn generalizing w with
  | ind n ih =>
    cases w with
    | nil => exact .nil
    | cons t w =>
      rw [afterAll?_cons] at closed
      obtain ⟨next, here, later⟩ := Option.bind_eq_some_iff.mp closed
      rw [List.length_cons] at length
      rcases terminal_cases t with plain | ⟨b, rfl⟩ | ⟨b, rfl⟩
      · rw [after?_plain plain] at here
        cases here
        exact .plain plain (ih w.length (by omega) w later rfl)
      · rw [after?_opener] at here
        cases here
        obtain ⟨inside, after, rfl, nested, left⟩ := exists_closer w later
        simp only [List.length_append, List.length_cons] at length
        exact .pair b nested (ih after.length (by omega) after left rfl)
      · cases after?_closer_eq_some here

/-! ### Semicolons -/

/-- The brackets that are open after a terminal of a skipped declaration, where a semicolon that stands
outside of brackets is refused. -/
def taken? (stack : List Bracket) (t : Terminal) : Option (List Bracket) :=
  if t = .semicolon ∧ stack = [] then none else after? stack t

def takenAll? (stack : List Bracket) (w : List Terminal) : Option (List Bracket) := w.foldlM taken? stack

theorem takenAll?_cons : takenAll? stack (t :: w) = (taken? stack t).bind fun left => takenAll? left w :=
  List.foldlM_cons

theorem takenAll?_eq_some_iff {left : List Bracket} : takenAll? stack w = some left ↔
    afterAll? stack w = some left ∧
      ∀ before after open', w = before ++ .semicolon :: after → afterAll? stack before = some open' →
        open' ≠ [] := by
  induction w generalizing stack with
  | nil => simp [takenAll?, afterAll?]
  | cons t w ih =>
    rw [takenAll?_cons, afterAll?_cons, taken?]
    split
    · rename_i outside
      obtain ⟨rfl, rfl⟩ := outside
      exact iff_of_false nofun fun held => held.2 [] w [] rfl rfl rfl
    · rename_i inside
      cases here : after? stack t with
      | none => exact iff_of_false nofun fun held => nomatch held.1
      | some next =>
        rw [Option.bind_some, Option.bind_some, ih]
        refine and_congr_right fun _ => ⟨fun each before rest open' whole first => ?_,
          fun each before rest open' whole first => ?_⟩
        · cases before with
          | nil =>
            cases first
            obtain ⟨rfl, -⟩ := List.cons.inj whole
            exact fun outside => inside ⟨rfl, outside⟩
          | cons u before =>
            obtain ⟨rfl, rfl⟩ := List.cons.inj whole
            rw [afterAll?_cons, here] at first
            exact each before rest open' rfl first
        · refine each (t :: before) rest open' (by rw [whole, List.cons_append]) ?_
          rw [afterAll?_cons, here]
          exact first

/-- The grammar of skipped declarations against their open brackets. -/
theorem skippable_iff : Skippable w ↔ w ≠ [] ∧ takenAll? [] w = some [] := by
  rw [takenAll?_eq_some_iff]
  constructor
  · rintro ⟨filled, nested, enclosed⟩
    refine ⟨filled, nested.afterAll? [], fun before after open' whole first => ?_⟩
    obtain ⟨b, outer, left, right, rest, rfl, -, between⟩ := enclosed before after whole
    have begun := between.afterAll? []
    rw [afterAll?_append] at begun first
    obtain ⟨stack, -, first⟩ := Option.bind_eq_some_iff.mp first
    obtain ⟨inner, begun, -⟩ := Option.bind_eq_some_iff.mp begun
    have more := afterAll?_below begun (b :: stack)
    rw [afterAll?_cons, after?_opener] at first
    change afterAll? (b :: stack) left = _ at first
    rw [List.nil_append, first] at more
    cases more
    simp
  · rintro ⟨filled, closed, inside⟩
    refine ⟨filled, nested_of_afterAll? w closed, fun before after whole => ?_⟩
    rw [whole, afterAll?_append] at closed
    obtain ⟨open', first, ended⟩ := Option.bind_eq_some_iff.mp closed
    cases open' with
    | nil => exact absurd rfl (inside before after [] whole first)
    | cons b stack =>
      obtain ⟨outer, left, rfl, begun, -⟩ := exists_opener before first
      obtain ⟨between, rest, same, nested, -⟩ := exists_closer _ ended
      cases between with
      | nil =>
        have other : ∀ b : Bracket, Terminal.semicolon ≠ b.closer := by
          intro b
          cases b <;> decide
        exact absurd (List.cons.inj same).1 (other b)
      | cons t right =>
        obtain ⟨rfl, later⟩ := List.cons.inj same
        exact ⟨b, outer, left, right, rest, rfl, later, begun.append nested⟩

instance : DecidablePred Skippable := fun _ => decidable_of_iff _ skippable_iff.symm

example : Skippable [.name, .leftParen, .rightParen, .leftBrace, .semicolon, .rightBrace] := by decide

example : ¬ Skippable [.leftParen, .leftBracket, .rightParen, .rightBracket] := by decide

/-! ### Places of reading -/

/-- The words and signs of a skipped declaration. -/
def skipWords : List Terminal := [.name, .number, .string, .rawString, .rune, .operator]

/-- What the tokens of a skipped declaration can be. -/
inductive Skipped : Terminal → Prop where
  | word {t : Terminal} (listed : t ∈ skipWords) : Skipped t
  | semicolon : Skipped .semicolon
  | opener (b : Bracket) : Skipped b.opener
  | closer (b : Bracket) : Skipped b.closer

/-- The places of reading in a skipped declaration, with the brackets that are open there. -/
inductive Skips (file : SourceFile) : List Bracket → Mode → Prop where
  | start : Skips file [] (.skipStart file)
  | opened (b : Bracket) (outer : List Bracket) : Skips file (b :: outer) (.skipOpen b outer file)
  | within (stack : List Bracket) : Skips file stack (.skip stack file)

namespace Skips

variable {file : SourceFile} {mode : Mode} {docs : Nat → String} {text : String} {pos : Position}

theorem advance_opener (skips : Skips file stack mode) (b : Bracket) :
    advance docs mode ⟨b.opener, text, pos⟩ = goto (.skipOpen b stack file) := by
  cases skips with
  | start => cases b <;> rfl
  | opened c outer => cases b <;> cases c <;> rfl
  | within =>
    cases stack with
    | nil => cases b <;> rfl
    | cons c outer => cases b <;> cases c <;> rfl

theorem advance_word (skips : Skips file stack mode) (word : t ∈ skipWords) :
    advance docs mode ⟨t, text, pos⟩ = goto (.skip stack file) := by
  simp only [skipWords, List.mem_cons, List.not_mem_nil, or_false] at word
  cases skips with
  | start => rcases word with rfl | rfl | rfl | rfl | rfl | rfl <;> rfl
  | opened c outer => cases c <;> rcases word with rfl | rfl | rfl | rfl | rfl | rfl <;> rfl
  | within =>
    cases stack with
    | nil => rcases word with rfl | rfl | rfl | rfl | rfl | rfl <;> rfl
    | cons c outer => cases c <;> rcases word with rfl | rfl | rfl | rfl | rfl | rfl <;> rfl

/-- A closing bracket is taken for the innermost one, and for no other. -/
theorem advance_closer (skips : Skips file stack mode) (b : Bracket) :
    (∃ outer, stack = b :: outer ∧ advance docs mode ⟨b.closer, text, pos⟩ = goto (.skip outer file)) ∨
      stack.head? ≠ some b ∧ ∃ expected, advance docs mode ⟨b.closer, text, pos⟩ = .error expected := by
  cases skips with
  | start => cases b <;> exact .inr ⟨nofun, _, rfl⟩
  | opened c outer =>
    cases b <;> cases c <;> first | exact .inl ⟨_, rfl, rfl⟩ | exact .inr ⟨nofun, _, rfl⟩
  | within =>
    cases stack with
    | nil => cases b <;> exact .inr ⟨nofun, _, rfl⟩
    | cons c outer => cases b <;> cases c <;> first | exact .inl ⟨_, rfl, rfl⟩ | exact .inr ⟨nofun, _, rfl⟩

theorem advance_semicolon (skips : Skips file (b :: stack) mode) :
    advance docs mode ⟨.semicolon, text, pos⟩ = goto (.skip (b :: stack) file) := by
  cases skips <;> cases b <;> rfl

/-- Outside of brackets a semicolon ends the declaration, unless it is still empty. -/
theorem advance_end (skips : Skips file [] mode) :
    mode = .skipStart file ∧ (∃ expected, advance docs mode ⟨.semicolon, text, pos⟩ = .error expected) ∨
      mode = .skip [] file ∧ advance docs mode ⟨.semicolon, text, pos⟩ = goto (.decls file) := by
  cases skips with
  | start => exact .inl ⟨rfl, _, rfl⟩
  | within => exact .inr ⟨rfl, rfl⟩

/-- Behind a declaration none of its tokens can follow. -/
theorem decls_refuses (skipped : Skipped t) :
    ∃ expected, advance docs (.decls file) ⟨t, text, pos⟩ = .error expected := by
  cases skipped with
  | word listed =>
    simp only [skipWords, List.mem_cons, List.not_mem_nil, or_false] at listed
    rcases listed with rfl | rfl | rfl | rfl | rfl | rfl <;> exact ⟨_, rfl⟩
  | semicolon => exact ⟨_, rfl⟩
  | opener b | closer b => cases b <;> exact ⟨_, rfl⟩

theorem plain_word (word : t ∈ .semicolon :: skipWords) : Plain t := by
  simp only [skipWords, List.mem_cons, List.not_mem_nil, or_false] at word
  intro b
  rcases word with rfl | rfl | rfl | rfl | rfl | rfl | rfl <;> cases b <;> decide

/-- One token of a skipped declaration: what is taken leads on to a place with the brackets open that
are then open. -/
theorem advance_taken (skips : Skips file stack mode) (skipped : Skipped t) {left : List Bracket}
    (taken : taken? stack t = some left) :
    ∃ next, advance docs mode ⟨t, text, pos⟩ = goto next ∧ Skips file left next ∧ next ≠ .skipStart file := by
  unfold taken? at taken
  split at taken
  · cases taken
  · rename_i inside
    cases skipped with
    | word listed =>
      rw [after?_plain (plain_word (List.mem_cons_of_mem _ listed))] at taken
      cases taken
      exact ⟨_, skips.advance_word listed, .within _, nofun⟩
    | semicolon =>
      rw [after?_plain (plain_word List.mem_cons_self)] at taken
      cases taken
      cases stack with
      | nil => exact absurd ⟨rfl, rfl⟩ inside
      | cons b outer => exact ⟨_, skips.advance_semicolon, .within _, nofun⟩
    | opener b =>
      rw [after?_opener] at taken
      cases taken
      exact ⟨_, skips.advance_opener b, .opened _ _, nofun⟩
    | closer b =>
      rcases skips.advance_closer b with ⟨outer, rfl, advanced⟩ | ⟨other, -⟩
      · rw [after?_closer] at taken
        cases taken
        exact ⟨_, advanced, .within _, nofun⟩
      · rw [after?_closer_eq_some taken] at other
        exact absurd rfl other

/-- What is not taken is refused, or it is a semicolon that ends the declaration. -/
theorem advance_refused (skips : Skips file stack mode) (skipped : Skipped t)
    (refused : taken? stack t = none) :
    (∃ expected, advance docs mode ⟨t, text, pos⟩ = .error expected) ∨
      advance docs mode ⟨t, text, pos⟩ = goto (.decls file) := by
  unfold taken? at refused
  split at refused
  · rename_i outside
    obtain ⟨rfl, rfl⟩ := outside
    rcases skips.advance_end with ⟨-, failed⟩ | ⟨-, ended⟩
    · exact .inl failed
    · exact .inr ended
  · cases skipped with
    | word listed =>
      rw [after?_plain (plain_word (List.mem_cons_of_mem _ listed))] at refused
      cases refused
    | semicolon =>
      rw [after?_plain (plain_word List.mem_cons_self)] at refused
      cases refused
    | opener b =>
      rw [after?_opener] at refused
      cases refused
    | closer b =>
      rcases skips.advance_closer b with ⟨outer, rfl, -⟩ | ⟨-, failed⟩
      · rw [after?_closer] at refused
        cases refused
      · exact .inl failed

end Skips

/-- What is left of the tokens leads to the end of a skipped declaration. -/
inductive Remains (file : SourceFile) : List Terminal → Mode → Prop where
  | inside {stack : List Bracket} {w : List Terminal} {mode : Mode} (skips : Skips file stack mode)
      (taken : takenAll? stack w = some []) (filled : mode = .skipStart file → w ≠ []) :
      Remains file (w ++ [.semicolon]) mode
  | behind : Remains file [] (.decls file)

/-- The next token leads on. -/
theorem Remains.advance {file : SourceFile} {mode : Mode} {ts : List Terminal}
    (remains : Remains file (t :: ts) mode) (skipped : Skipped t) (docs : Nat → String) (text : String)
    (pos : Position) : ∃ next, advance docs mode ⟨t, text, pos⟩ = goto next ∧ Remains file ts next := by
  generalize whole : t :: ts = all at remains
  cases remains with
  | @inside stack w _ skips taken filled =>
    cases w with
    | nil =>
      cases taken
      cases whole
      rcases skips.advance_end with ⟨start, -⟩ | ⟨-, ended⟩
      · exact absurd rfl (filled start)
      · exact ⟨_, ended, .behind⟩
    | cons u w =>
      obtain ⟨rfl, rfl⟩ := List.cons.inj whole
      rw [takenAll?_cons] at taken
      obtain ⟨left, here, later⟩ := Option.bind_eq_some_iff.mp taken
      obtain ⟨next, advanced, skips, begun⟩ := skips.advance_taken skipped here
      exact ⟨next, advanced, .inside skips later fun start => absurd start begun⟩
  | behind => cases whole

theorem Remains.ended {file : SourceFile} {mode : Mode} (remains : Remains file [] mode) :
    mode = .decls file := by
  generalize nothing : [] = left at remains
  cases remains with
  | inside => simp at nothing
  | behind => rfl

/-! ### Runs of tokens -/

namespace Reading

variable {r q : Reading} {file : SourceFile} {mode next : Mode} {token : Token} {tokens : List Token}

theorem feed_eq_ok : r.feed token = .ok q ↔
    ∃ step, advance (Comment.above r.comments) r.mode token = .ok step ∧
    q = { r with mode := step.mode, fault := r.fault <|> step.fault, last := some token } := by
  unfold Reading.feed
  cases advance (Comment.above r.comments) r.mode token with
  | error => exact iff_of_false nofun fun ⟨_, same, _⟩ => nomatch same
  | ok step =>
    refine ⟨fun fed => ⟨step, rfl, (Except.ok.inj fed).symm⟩, ?_⟩
    rintro ⟨_, same, rfl⟩
    cases same
    rfl

theorem feed_goto (advanced : advance (Comment.above r.comments) r.mode token = goto next) :
    r.feed token = .ok { r with mode := next, last := some token } := by
  refine feed_eq_ok.mpr ⟨_, advanced, ?_⟩
  cases r with
  | mk _ _ _ _ _ _ fault => cases fault <;> rfl

theorem feed_refused {expected : List Terminal}
    (refused : advance (Comment.above r.comments) r.mode token = .error expected) : r.feed token ≠ .ok q := by
  intro fed
  obtain ⟨_, advanced, -⟩ := feed_eq_ok.mp fed
  rw [refused] at advanced
  cases advanced

/-- Reads tokens one after another. -/
def feedAll (r : Reading) (tokens : List Token) : Except SyntaxFault Reading := tokens.foldlM feed r

theorem feedAll_cons : r.feedAll (token :: tokens) = (r.feed token).bind fun q => q.feedAll tokens :=
  List.foldlM_cons

theorem feedAll_append {more : List Token} :
    r.feedAll (tokens ++ more) = (r.feedAll tokens).bind fun q => q.feedAll more :=
  List.foldlM_append

theorem feedAll_goto (advanced : advance (Comment.above r.comments) r.mode token = goto next) :
    r.feedAll (token :: tokens) = { r with mode := next, last := some token }.feedAll tokens := by
  rw [feedAll_cons, feed_goto advanced]
  rfl

theorem feedAll_refused {expected : List Terminal}
    (refused : advance (Comment.above r.comments) r.mode token = .error expected) :
    r.feedAll (token :: tokens) ≠ .ok q := by
  intro read
  rw [feedAll_cons] at read
  obtain ⟨_, fed, -⟩ := bind_eq_ok.mp read
  exact feed_refused refused fed

theorem exists_token {ts : List Terminal} (listed : tokens.map (·.terminal) = t :: ts) :
    ∃ text pos more, tokens = ⟨t, text, pos⟩ :: more ∧ more.map (·.terminal) = ts := by
  obtain ⟨⟨_, text, pos⟩, more, rfl, rfl, others⟩ := List.map_eq_cons_iff.mp listed
  exact ⟨text, pos, more, rfl, others⟩

/-- The rest of a skipped declaration is read to its end. -/
theorem feedAll_remains {ts : List Terminal} (remains : Remains file ts r.mode) (all : ∀ t ∈ ts, Skipped t)
    (listed : tokens.map (·.terminal) = ts) :
    ∃ q, r.feedAll tokens = .ok q ∧ q.mode = .decls file ∧ q.fault = r.fault := by
  induction ts generalizing r tokens with
  | nil =>
    obtain rfl := List.map_eq_nil_iff.mp listed
    exact ⟨r, rfl, remains.ended, rfl⟩
  | cons t ts ih =>
    obtain ⟨text, pos, tokens, rfl, others⟩ := exists_token listed
    obtain ⟨next, advanced, later⟩ :=
      remains.advance (all t List.mem_cons_self) (Comment.above r.comments) text pos
    rw [feedAll_goto advanced]
    exact ih later (fun t member => all t (List.mem_cons_of_mem _ member)) others

/-- Only such a rest is read to the end of the input. -/
theorem taken_of_feedAll (skips : Skips file stack r.mode) (all : ∀ t ∈ w, Skipped t)
    (listed : tokens.map (·.terminal) = w ++ [.semicolon, .endOfInput]) (read : r.feedAll tokens = .ok q) :
    takenAll? stack w = some [] ∧ (r.mode = .skipStart file → w ≠ []) := by
  induction w generalizing stack r tokens with
  | nil =>
    obtain ⟨text, pos, tokens, rfl, others⟩ := exists_token listed
    cases stack with
    | nil =>
      rcases skips.advance_end with ⟨-, expected, failed⟩ | ⟨inside, -⟩
      · exact absurd read (feedAll_refused failed)
      · rw [inside]
        exact ⟨rfl, nofun⟩
    | cons b outer =>
      obtain ⟨text, pos, tokens, rfl, -⟩ := exists_token others
      rw [feedAll_goto skips.advance_semicolon] at read
      -- The input must not end inside brackets.
      have refused : advance (Comment.above r.comments) (.skip (b :: outer) file) ⟨.endOfInput, text, pos⟩ =
          .error (Mode.expects (.skip (b :: outer) file)) := rfl
      exact absurd read (feedAll_refused refused)
  | cons t w ih =>
    obtain ⟨text, pos, tokens, rfl, others⟩ := exists_token listed
    have skipped : Skipped t := all t List.mem_cons_self
    have rest : ∀ t ∈ w, Skipped t := fun t member => all t (List.mem_cons_of_mem _ member)
    refine ⟨?_, fun _ => List.cons_ne_nil _ _⟩
    rw [takenAll?_cons]
    cases here : taken? stack t with
    | some left =>
      obtain ⟨next, advanced, skips, -⟩ := skips.advance_taken skipped here
      rw [feedAll_goto advanced] at read
      exact (ih skips rest others read).1
    | none =>
      rcases skips.advance_refused skipped here with ⟨expected, failed⟩ | ended
      · exact absurd read (feedAll_refused failed)
      · rw [feedAll_goto ended] at read
        -- What comes next is one more token of the declaration, or the semicolon behind it.
        obtain ⟨u, more, follows, next⟩ : ∃ u more, tokens.map (·.terminal) = u :: more ∧ Skipped u := by
          cases w with
          | nil => exact ⟨_, _, others, .semicolon⟩
          | cons u w => exact ⟨u, _, others, rest u List.mem_cons_self⟩
        obtain ⟨text, pos, tokens, rfl, -⟩ := exists_token follows
        obtain ⟨expected, failed⟩ := Skips.decls_refuses next
        exact absurd read (feedAll_refused failed)

end Reading

/-! ### Skipped declarations behind a package clause -/

/-- The file that tokens are read as; none if one of them is refused or their content is faulty. -/
def fileOf? (tokens : List Token) : Option SourceFile :=
  ((Reading.start []).feedAll tokens).toOption.bind Reading.result

/-- The keywords of skipped declarations. -/
def skipKeywords : List (String × Terminal) :=
  [("func", .funcKeyword), ("const", .constKeyword), ("var", .varKeyword)]

section

variable {word : String} {keyword : Terminal} {file : SourceFile} {mode : Mode} {tokens : List Token}

/-- Such a keyword starts a skipped declaration wherever one may stand. -/
theorem advance_keyword {docs : Nat → String} {text : String} {pos : Position}
    (known : (word, keyword) ∈ skipKeywords) (place : mode = .imports file ∨ mode = .decls file) :
    advance docs mode ⟨keyword, text, pos⟩ = goto (.skipStart file) := by
  simp only [skipKeywords, List.mem_cons, List.not_mem_nil, or_false, Prod.mk.injEq] at known
  rcases known with ⟨-, rfl⟩ | ⟨-, rfl⟩ | ⟨-, rfl⟩ <;> rcases place with rfl | rfl <;> rfl

/-- The terminals of a package clause and a declaration with the keyword. -/
def declaration (keyword : Terminal) (w : List Terminal) : List Terminal :=
  .packageKeyword :: .name :: .semicolon :: keyword :: (w ++ [.semicolon, .endOfInput])

/-- Behind a package clause, the rest of a declaration is read from the place where it starts. -/
theorem exists_clause (known : (word, keyword) ∈ skipKeywords)
    (listed : tokens.map (·.terminal) = declaration keyword w) :
    ∃ (r : Reading) (file : SourceFile) (rest : List Token),
      (Reading.start []).feedAll tokens = r.feedAll rest ∧ r.mode = .skipStart file ∧ r.fault = none ∧
        file.imports = [] ∧ file.types = [] ∧ rest.map (·.terminal) = w ++ [.semicolon, .endOfInput] := by
  obtain ⟨_, pos, tokens, rfl, named⟩ := Reading.exists_token listed
  obtain ⟨name, _, tokens, rfl, closed⟩ := Reading.exists_token named
  obtain ⟨_, _, tokens, rfl, declared⟩ := Reading.exists_token closed
  obtain ⟨_, _, tokens, rfl, rest⟩ := Reading.exists_token declared
  rw [Reading.feedAll_goto rfl, Reading.feedAll_goto rfl, Reading.feedAll_goto rfl,
    Reading.feedAll_goto (advance_keyword known (.inl rfl))]
  exact ⟨_, _, tokens, rfl, rfl, rfl, rfl, rfl, rest⟩

/-- A declaration that is skippable is read, and declares nothing. -/
theorem fileOf?_of_skippable (known : (word, keyword) ∈ skipKeywords) (all : ∀ t ∈ w, Skipped t)
    (listed : tokens.map (·.terminal) = declaration keyword w) (skippable : Skippable w) :
    ∃ file, fileOf? tokens = some file ∧ file.imports = [] ∧ file.types = [] := by
  obtain ⟨r, file, rest, read, mode, sound, imports, types, left⟩ := exists_clause known listed
  obtain ⟨filled, taken⟩ := skippable_iff.mp skippable
  rw [show w ++ [.semicolon, .endOfInput] = (w ++ [.semicolon]) ++ [.endOfInput] by simp] at left
  obtain ⟨inside, ended, rfl, first, second⟩ := List.map_eq_append_iff.mp left
  obtain ⟨_, _, none', rfl, nothing⟩ := Reading.exists_token second
  obtain rfl := List.map_eq_nil_iff.mp nothing
  have remains : Remains file (w ++ [.semicolon]) r.mode := by
    rw [mode]
    exact .inside .start taken fun _ => filled
  have skipped : ∀ t ∈ w ++ [.semicolon], Skipped t := by
    intro t member
    rcases List.mem_append.mp member with inside | last
    · exact all t inside
    · rw [List.mem_singleton.mp last]
      exact .semicolon
  obtain ⟨q, through, decls, clean⟩ := Reading.feedAll_remains remains skipped first
  refine ⟨file, ?_, imports, types⟩
  rw [fileOf?, read, Reading.feedAll_append, through]
  change (q.feedAll _).toOption.bind Reading.result = some file
  have closes (token : Token) (last : token.terminal = .endOfInput) :
      advance (Comment.above q.comments) q.mode token = goto (.done file) := by
    obtain ⟨t, text, pos⟩ := token
    cases last
    rw [decls]
    rfl
  rw [Reading.feedAll_goto (closes _ rfl)]
  change Reading.result { q with mode := .done file, last := _ } = some file
  simp only [Reading.result, clean, sound]

/-- A declaration that is read is skippable. -/
theorem skippable_of_fileOf? (known : (word, keyword) ∈ skipKeywords) (all : ∀ t ∈ w, Skipped t)
    (listed : tokens.map (·.terminal) = declaration keyword w) (read : fileOf? tokens = some file) :
    Skippable w := by
  obtain ⟨r, file, rest, same, mode, -, -, -, left⟩ := exists_clause known listed
  rw [fileOf?, same] at read
  obtain ⟨q, through, -⟩ := Option.bind_eq_some_iff.mp read
  cases fed : r.feedAll rest with
  | error =>
    rw [fed] at through
    cases through
  | ok q =>
    have skips : Skips file [] r.mode := by
      rw [mode]
      exact .start
    obtain ⟨taken, filled⟩ := Reading.taken_of_feedAll skips all left fed
    exact skippable_iff.mpr ⟨filled mode, taken⟩

end

end GoIdl.Syntax.Parser
