import GoIdl.Proofs.Syntax.Skipping
import GoIdl.Proofs.Syntax.Comments
import Mathlib.Data.Bool.AllAny

/-!
# Appended declarations

A lexeme in front of a line break is the same, whatever stands behind the break. So a source that is
read can be continued on a new line, and a skipped declaration there leaves the file as it was.
-/

namespace GoIdl

theorem Text.splitFirst_ahead {word s before after : List Char}
    (found : splitFirst word s = some (before, after))
    (filled : word ≠ []) (more : List Char) : splitFirst word (s ++ more) = some (before, after ++ more) := by
  induction s generalizing before with
  | nil =>
    unfold splitFirst at found
    rw [if_neg (by simpa using filled)] at found
    cases found
  | cons c s ih =>
    unfold splitFirst at found
    split at found
    · rename_i starts
      obtain ⟨rest, same⟩ := List.isPrefixOf_iff_prefix.mp starts
      cases found
      have begins : word.isPrefixOf (c :: (s ++ more)) = true :=
        List.isPrefixOf_iff_prefix.mpr ⟨rest ++ more, by rw [← List.append_assoc, same, List.cons_append]⟩
      have length : word.length ≤ (c :: s).length := by
        rw [← same, List.length_append]
        exact Nat.le_add_right _ _
      rw [List.cons_append, splitFirst, if_pos begins, ← List.cons_append,
        List.drop_append_of_le_length length]
    · rename_i other
      obtain ⟨⟨inside, rest⟩, later, same⟩ := Option.map_eq_some_iff.mp found
      cases same
      have length : word.length ≤ (c :: s).length := by
        rw [splitFirst_eq later]
        simp only [List.length_cons, List.length_append]
        omega
      have differs : ¬ word.isPrefixOf (c :: (s ++ more)) = true := fun begins =>
        other (List.isPrefixOf_iff_prefix.mpr (List.prefix_of_prefix_length_le
          (List.isPrefixOf_iff_prefix.mp begins) (List.prefix_append (c :: s) more) length))
      rw [List.cons_append, splitFirst, if_neg differs, ih later]
      rfl

namespace Syntax

/-- Blanks and line breaks: what no token goes on with. -/
def isGap (c : Char) : Bool := isLayout c || c == '\n'

variable {accepted : List Terminal} {s rest text more : List Char} {c d mark : Char} {t : Terminal}

/-- The lexeme is the same with `more` behind the text. -/
abbrev Match.ahead (more : List Char) (found : List Char × List Char) : List Char × List Char :=
  (found.1, found.2 ++ more)

theorem isGap_cases (gap : isGap d = true) : d = ' ' ∨ d = '\t' ∨ d = '\x0c' ∨ d = '\r' ∨ d = '\n' := by
  simpa [isGap, isLayout, or_assoc] using gap

/-! ### Patterns in front of a gap -/

section

variable (gap : isGap d = true)

include gap

theorem gap_stops : isOperatorSign d = false ∧ isNumberRest d = false ∧ Text.isWord d = false ∧
    d ∉ ['/', '*', '"', '\'', '`', '\\'] := by
  rcases isGap_cases gap with rfl | rfl | rfl | rfl | rfl <;> decide

theorem operatorRun_ahead (s : List Char) :
    operatorRun (s ++ d :: more) = Match.ahead (d :: more) (operatorRun s) := by
  obtain ⟨sign, -, -, other⟩ := gap_stops gap
  simp only [List.mem_cons, List.not_mem_nil, or_false, not_or] at other
  fun_induction operatorRun s with
  | case1 => exact operatorRun_of_not other.1 sign
  | case2 => simp [operatorRun]
  | case3 => simp [operatorRun]
  | case4 c rest line block starts run rest' ended ih =>
    rw [ended] at ih
    rw [List.cons_append, operatorRun, ih, if_pos starts]
    · rintro again rfl same
      cases rest with
      | nil => exact other.1 (List.cons.inj same).1
      | cons e rest =>
        obtain ⟨rfl, -⟩ := List.cons.inj same
        exact line rest rfl rfl
    · rintro again rfl same
      cases rest with
      | nil => exact other.2.1 (List.cons.inj same).1
      | cons e rest =>
        obtain ⟨rfl, -⟩ := List.cons.inj same
        exact block rest rfl rfl
  | case5 c rest line block sign =>
    rw [not_or] at sign
    exact operatorRun_of_not sign.1 (by simpa using sign.2)

omit gap in
theorem span_ahead {goes : Char → Bool} (ends : goes d = false) (s : List Char) :
    (s ++ d :: more).span goes = Match.ahead (d :: more) (s.span goes) := by
  rw [List.span_eq_takeWhile_dropWhile, List.span_eq_takeWhile_dropWhile]
  induction s with
  | nil => simp [ends]
  | cons c s ih =>
    obtain ⟨taken, left⟩ := Prod.mk.inj ih
    by_cases held : goes c = true <;> simp [held, taken, left]

omit gap in
theorem run?_ahead {first goes : Char → Bool} (ends : goes d = false) (filled : s ≠ []) :
    run? first goes (s ++ d :: more) = (run? first goes s).map (Match.ahead (d :: more)) := by
  obtain ⟨c, s, rfl⟩ := List.exists_cons_of_ne_nil filled
  rw [List.cons_append, run?, run?, span_ahead ends]
  split <;> rfl

omit gap in
theorem quotedLiteral?_ahead (quotes : mark = '"' ∨ mark = '\'')
    (found : quotedLiteral? mark s = some (text, rest)) (more : List Char) :
    quotedLiteral? mark (s ++ more) = some (text, rest ++ more) := by
  unfold quotedLiteral? at found
  split at found
  · rename_i c inside
    split at found
    · rename_i opens
      split at found
      · rename_i body close after ended
        split at found
        · rename_i closes
          cases found
          subst opens closes
          have whole := quotedBody_append close inside
          have stops : quotedBody close (close :: (rest ++ more)) = ([], close :: (rest ++ more)) := by
            rcases quotes with rfl | rfl <;> simp [quotedBody]
          have again := quotedBody_again stops inside
          rw [ended] at whole again
          rw [← whole]
          simp only [List.cons_append, List.append_assoc, quotedLiteral?, again, if_true]
        · cases found
      · cases found
    · cases found
  · cases found

omit gap in
theorem rawLiteral?_ahead (found : rawLiteral? s = some (text, rest)) (more : List Char) :
    rawLiteral? (s ++ more) = some (text, rest ++ more) := by
  unfold rawLiteral? at found
  split at found
  · obtain ⟨⟨body, after⟩, split, same⟩ := Option.map_eq_some_iff.mp found
    cases same
    simp [rawLiteral?, Text.splitFirst_ahead split]
  · cases found

/-- The marks around literals. -/
def quotes : List (Char × Terminal) := [('"', .string), ('\'', .rune), ('`', .rawString)]

/-- A literal or a comment starts that is not closed, or a rune without a character. -/
def Unclosed (s : List Char) : Prop :=
  (∃ quote ∈ quotes, s.head? = some quote.1 ∧ pattern? quote.2 s = none) ∨
    ['/', '*'] <+: s ∧ comment? s = none

omit gap in
/-- No literal of the kind starts the text, unless it is closed. -/
theorem head_ne_quote (closed : ¬ Unclosed s) (quote : (mark, t) ∈ quotes) (unmatched : pattern? t s = none) :
    s.head? ≠ some mark := fun first => closed (.inl ⟨_, quote, first, unmatched⟩)

theorem pattern?_ahead (filled : s ≠ []) (closed : ¬ Unclosed s) (t : Terminal) :
    pattern? t (s ++ d :: more) = (pattern? t s).map (Match.ahead (d :: more)) := by
  obtain ⟨-, number, word, -⟩ := gap_stops gap
  obtain ⟨c, s, rfl⟩ := List.exists_cons_of_ne_nil filled
  cases t with
  | operator =>
    rw [pattern?, pattern?, operatorRun_ahead gap]
    obtain ⟨run, rest⟩ := operatorRun (c :: s)
    cases run <;> rfl
  | number => exact run?_ahead number filled
  | name => exact run?_ahead word filled
  | string =>
    cases found : pattern? .string (c :: s) with
    | some parts =>
      have literal : quotedLiteral? '"' (c :: s) = some (parts.1, parts.2) := found
      exact quotedLiteral?_ahead (.inl rfl) literal (d :: more)
    | none =>
      have other : c ≠ '"' := fun same => head_ne_quote closed (by decide) found (congrArg some same)
      exact quotedLiteral?_eq_none other
  | rune =>
    cases found : pattern? .rune (c :: s) with
    | some parts =>
      obtain ⟨literal, long⟩ := Option.filter_eq_some_iff.mp found
      have ahead := quotedLiteral?_ahead (.inr rfl) literal (d :: more)
      exact Option.filter_eq_some_iff.mpr ⟨ahead, long⟩
    | none =>
      have other : c ≠ '\'' := fun same => head_ne_quote closed (by decide) found (congrArg some same)
      rw [List.cons_append, pattern?, quotedLiteral?_eq_none other]
      rfl
  | rawString =>
    cases found : pattern? .rawString (c :: s) with
    | some parts =>
      have literal : rawLiteral? (c :: s) = some (parts.1, parts.2) := found
      exact rawLiteral?_ahead literal (d :: more)
    | none =>
      have other : c ≠ '`' := fun same => head_ne_quote closed (by decide) found (congrArg some same)
      exact rawLiteral?_eq_none other
  | _ => rfl

theorem comment?_ahead_none (filled : s ≠ []) (closed : ¬ Unclosed s) (noComment : comment? s = none) :
    comment? (s ++ d :: more) = none := by
  obtain ⟨-, -, -, other⟩ := gap_stops gap
  simp only [List.mem_cons, List.not_mem_nil, or_false, not_or] at other
  obtain ⟨c, s, rfl⟩ := List.exists_cons_of_ne_nil filled
  refine comment?_of_not ?_
  rintro rfl e first
  cases s with
  | nil =>
    cases first
    exact ⟨other.1, other.2.1⟩
  | cons f s =>
    cases first
    constructor
    · rintro rfl
      cases noComment
    · rintro rfl
      exact closed (.inr ⟨⟨s, rfl⟩, noComment⟩)

end

theorem comment?_ahead (found : comment? s = some (text, rest)) (more : List Char) :
    comment? (s ++ '\n' :: more) = some (text, rest ++ '\n' :: more) := by
  unfold comment? at found
  split at found
  · rename_i inside
    have goes : (inside ++ '\n' :: more).span (· != '\n') = _ := span_ahead rfl inside
    cases span : inside.span (· != '\n') with
    | mk body after =>
      rw [span] at found goes
      cases found
      simp only [List.cons_append, comment?, goes]
  · obtain ⟨⟨body, after⟩, split, same⟩ := Option.map_eq_some_iff.mp found
    cases same
    simp [comment?, Text.splitFirst_ahead split]
  · cases found

/-! ### Lexemes in front of a gap -/

theorem scan_stuck (starts : c ∈ ['"', '\'', '`', '/']) (noComment : comment? (c :: s) = none)
    (unmatched : ∀ t ∈ patterned, pattern? t (c :: s) = none) : scan accepted (c :: s) = none := by
  have facts : ∀ c ∈ ['"', '\'', '`', '/'], isLayout c = false ∧ c ≠ '\n' ∧
      ∀ entry ∈ Terminal.keywords ++ Terminal.signs ++ Terminal.brackets, entry.1.toList.head? ≠ some c :=
    List.all_iff_forall_prop.mp (by decide)
  obtain ⟨layout, line, unspelled⟩ := facts c starts
  have patterns : ((patterned.filter accepted.contains).findSome? fun t => (pattern? t (c :: s)).map (t, ·)) =
      none := by
    rw [List.findSome?_eq_none_iff]
    intro t member
    rw [unmatched t (List.mem_of_mem_filter member)]
    rfl
  unfold scan
  rw [noComment]
  simp only [patterns, run?_eq_none layout]
  split
  · rename_i same
    exact absurd (List.cons.inj same).1 line
  · rw [List.findSome?_eq_none_iff]
    rintro ⟨word, t⟩ member
    refine if_neg fun begins => unspelled _ (mem_of_spelled member) ?_
    exact head_of_spelled member (List.isPrefixOf_iff_prefix.mp begins)

theorem pattern?_quote (quote : (c, t) ∈ quotes) {u : Terminal} (member : u ∈ patterned) (other : u ≠ t) :
    pattern? u (c :: s) = none := by
  have facts : ∀ quote ∈ quotes, quote.1 ≠ '/' ∧ isOperatorSign quote.1 = false ∧
      Text.isDecimal quote.1 = false ∧ Text.isWordStart quote.1 = false ∧ (.string ≠ quote.2 → quote.1 ≠ '"') ∧
        (.rune ≠ quote.2 → quote.1 ≠ '\'') ∧ (.rawString ≠ quote.2 → quote.1 ≠ '`') := by
    decide
  obtain ⟨slash, sign, decimal, starts, string, rune, raw⟩ := facts _ quote
  simp only [patterned, List.mem_cons, List.not_mem_nil, or_false] at member
  rcases member with rfl | rfl | rfl | rfl | rfl | rfl
  · rw [pattern?, operatorRun_of_not slash sign]
  · exact run?_eq_none decimal
  · rw [pattern?, quotedLiteral?_eq_none (rune other)]
    rfl
  · exact quotedLiteral?_eq_none (string other)
  · exact run?_eq_none starts
  · exact rawLiteral?_eq_none (raw other)

theorem scan_unclosed (unclosed : Unclosed s) : scan accepted s = none := by
  rcases unclosed with ⟨⟨mark, t⟩, quote, first, unmatched⟩ | ⟨⟨s, rfl⟩, noComment⟩
  · obtain ⟨s, rfl⟩ := List.head?_eq_some_iff.mp first
    have marks : ∀ quote ∈ quotes, quote.1 ∈ ['"', '\'', '`', '/'] ∧ quote.1 ≠ '/' := by decide
    refine scan_stuck (marks _ quote).1 (comment?_eq_none (marks _ quote).2) fun u member => ?_
    by_cases own : u = t
    · rw [own]
      exact unmatched
    · exact pattern?_quote quote member own
  · refine scan_stuck (c := '/') (by decide) noComment fun t member => ?_
    simp only [patterned, List.mem_cons, List.not_mem_nil, or_false] at member
    rcases member with rfl | rfl | rfl | rfl | rfl | rfl <;> rfl

theorem isPrefixOf_ahead (gap : isGap d = true) {word : List Char} (solid : ∀ c ∈ word, isGap c = false) :
    word.isPrefixOf (s ++ d :: more) = word.isPrefixOf s := by
  induction s generalizing word with
  | nil =>
    cases word with
    | nil => rfl
    | cons w word =>
      have differs : (w == d) = false := by
        rw [beq_eq_false_iff_ne]
        rintro rfl
        exact absurd (solid w List.mem_cons_self) (by simp [gap])
      simp [List.isPrefixOf, differs]
  | cons e s ih =>
    cases word with
    | nil => rfl
    | cons w word =>
      rw [List.cons_append, List.isPrefixOf_cons_cons, List.isPrefixOf_cons_cons,
        ih fun c member => solid c (List.mem_cons_of_mem _ member)]

theorem findSome?_map_of {α β γ : Type} {xs : List α} {f : α → Option β} {g : α → Option γ} {h : γ → β}
    (each : ∀ x ∈ xs, f x = (g x).map h) : xs.findSome? f = (xs.findSome? g).map h := by
  induction xs with
  | nil => rfl
  | cons x xs ih =>
    rw [List.findSome?_cons, List.findSome?_cons, each x List.mem_cons_self]
    cases g x with
    | none => exact ih fun y member => each y (List.mem_cons_of_mem _ member)
    | some => rfl

theorem spelled_ahead (gap : isGap d = true) (accepted : List Terminal) (s more : List Char) :
    ((spelled accepted).findSome? fun (word, t) =>
      if word.toList.isPrefixOf (s ++ d :: more) then
        some (Lexeme.token t word.toList, (s ++ d :: more).drop word.toList.length)
      else none) =
    ((spelled accepted).findSome? fun (word, t) =>
      if word.toList.isPrefixOf s then some (Lexeme.token t word.toList, s.drop word.toList.length)
      else none).map fun found => (found.1, found.2 ++ d :: more) := by
  have solid : ∀ entry ∈ Terminal.keywords ++ Terminal.signs ++ Terminal.brackets,
      (entry.1.toList.all fun c => !isGap c) = true := by
    decide
  refine findSome?_map_of fun (word, t) member => ?_
  have letters : ∀ c ∈ word.toList, isGap c = false := by
    simpa using solid (word, t) (mem_of_spelled member)
  dsimp only
  rw [isPrefixOf_ahead gap letters]
  split
  · rename_i begins
    rw [List.drop_append_of_le_length (List.isPrefixOf_iff_prefix.mp begins).length_le]
    rfl
  · rfl

theorem patterns_ahead (gap : isGap d = true) (filled : s ≠ []) (closed : ¬ Unclosed s)
    (accepted : List Terminal) (more : List Char) :
    ((patterned.filter accepted.contains).findSome? fun t => (pattern? t (s ++ d :: more)).map (t, ·)) =
      ((patterned.filter accepted.contains).findSome? fun t => (pattern? t s).map (t, ·)).map
        fun hit => (hit.1, Match.ahead (d :: more) hit.2) := by
  refine findSome?_map_of fun t _ => ?_
  rw [pattern?_ahead gap filled closed, Option.map_map, Option.map_map]
  rfl

theorem layout_ahead {text : List Char} (found : run? isLayout isLayout s = some (text, rest))
    (more : List Char) :
    run? isLayout isLayout (s ++ '\n' :: more) = some (text, rest ++ '\n' :: more) := by
  have filled : s ≠ [] := by
    rintro rfl
    cases found
  rw [run?_ahead rfl filled, found]
  rfl

theorem solid_of_run? {c : Char} (none : run? isLayout isLayout (c :: s) = none) : isLayout c = false := by
  by_contra blank
  rw [run?, if_pos (by simpa using blank)] at none
  cases none

/-- A lexeme is scanned in front of a line break as at the end of the text; a token is so in front of a
blank, too. -/
theorem scan_ahead (gap : isGap d = true) {lexeme : Lexeme} (found : scan accepted s = some (lexeme, rest))
    (ends : d = '\n' ∨ ∃ t text, lexeme = .token t text) (more : List Char) :
    scan accepted (s ++ d :: more) = some (lexeme, rest ++ d :: more) := by
  have closed : ¬ Unclosed s := fun unclosed => by
    rw [scan_unclosed unclosed] at found
    cases found
  have filled : s ≠ [] := Parser.Reading.ne_nil_of_scan found
  unfold scan at found ⊢
  cases comment : comment? s with
  | some parts =>
    rw [comment] at found
    cases found
    rcases ends with rfl | ⟨t, text, other⟩
    · rw [comment?_ahead comment]
    · cases other
  | none =>
    rw [comment] at found
    rw [comment?_ahead_none gap filled closed comment]
    dsimp only at found ⊢
    rw [patterns_ahead gap filled closed]
    cases hit : (patterned.filter accepted.contains).findSome? fun t => (pattern? t s).map (t, ·) with
    | some parts =>
      rw [hit] at found
      cases found
      rfl
    | none =>
      rw [hit] at found
      dsimp only [Option.map_none] at found ⊢
      cases layout : run? isLayout isLayout s with
      | some parts =>
        rw [layout] at found
        cases found
        rcases ends with rfl | ⟨t, text, other⟩
        · rw [layout_ahead layout]
        · cases other
      | none =>
        obtain ⟨c, s, rfl⟩ := List.exists_cons_of_ne_nil filled
        have spelling := spelled_ahead gap accepted (c :: s) more
        rw [layout] at found
        rw [List.cons_append] at spelling ⊢
        rw [run?_eq_none (solid_of_run? layout)]
        dsimp only at found ⊢
        split at found
        · rename_i line
          cases line
          cases found
          rfl
        · rename_i other
          split
          · rename_i line
            cases line
            exact absurd rfl (other s)
          · rw [spelling, found]
            rfl

/-! ### Tokens in other places -/

namespace Parser

variable {docs : Nat → String} {mode : Mode} {file : SourceFile}

theorem fieldRead_moved (declare : Option String → List (FieldDecl TypeExpr)) (hole : StructHole) (t : Token)
    (pos : Position) : fieldRead declare hole { t with pos } = fieldRead declare hole t := by
  cases hole
  rfl

mutual

theorem typeRead_moved (type : TypeExpr) (hole : TypeHole) (t : Token) (pos : Position) :
    typeRead type hole { t with pos } = typeRead type hole t := by
  cases hole with
  | spec | mapKey | param => rfl
  | pointer _ outer | slice _ outer | array _ _ outer | mapValue _ _ outer | chan _ outer =>
    exact typeRead_moved _ outer t pos
  | field names doc outer => exact fieldRead_moved _ outer t pos
  | result params outer => exact signatureRead_moved _ outer t pos

theorem signatureRead_moved (signature : Signature TypeExpr) (hole : SignatureHole) (t : Token)
    (pos : Position) :
    signatureRead signature hole { t with pos } = signatureRead signature hole t := by
  cases hole with
  | func at' outer => exact typeRead_moved _ outer t pos
  | method => rfl

end

theorem nameRead_moved (name : TypeName) (hole : NameHole) (t : Token) (pos : Position) :
    nameRead name hole { t with pos } = nameRead name hole t := by
  cases hole with
  | type outer => exact typeRead_moved _ outer t pos
  | field _ _ _ outer => exact fieldRead_moved _ outer t pos
  | embed outer =>
    cases outer
    rfl

theorem advance_semicolon (docs : Nat → String) (mode : Mode) (pos pos' : Position) :
    advance docs mode (semicolonAt pos) = advance docs mode (semicolonAt pos') := by
  cases mode with
  | typeName name hole => exact nameRead_moved _ hole (semicolonAt pos') pos
  | qualified name hole => exact nameRead_moved name hole (semicolonAt pos') pos
  | closed type hole => exact typeRead_moved type hole (semicolonAt pos') pos
  | params params hole => exact signatureRead_moved _ hole (semicolonAt pos') pos
  | results params results hole => exact signatureRead_moved _ hole (semicolonAt pos') pos
  | fieldName name doc hole => exact nameRead_moved _ (.field _ doc false hole) (semicolonAt pos') pos
  | elemName name doc hole => exact nameRead_moved _ (.embed hole) (semicolonAt pos') pos
  | skip brackets => cases brackets <;> rfl
  | _ => rfl

/-! ### Readings with more text behind -/

namespace Reading

variable {r q last : Reading} {t : Token}

theorem emit_ahead (emitted : r.emit t = .ok q) (rest : List Char) :
    { r with rest }.emit t = .ok { q with rest } := by
  have same := emit_rest r t rest
  rw [emitted] at same
  cases again : { r with rest }.emit t with
  | error =>
    rw [again] at same
    cases same
  | ok after =>
    rw [again] at same
    rw [Option.some.inj same]

theorem step_ahead (filled : r.rest ≠ []) (stepped : r.step = .ok q) (more : List Char) :
    { r with rest := r.rest ++ '\n' :: more }.step = .ok { q with rest := q.rest ++ '\n' :: more } := by
  have ahead {lexeme : Lexeme} {rest : List Char} (found : scan r.mode.expects r.rest = some (lexeme, rest)) :
      scan r.mode.expects (r.rest ++ '\n' :: more) = some (lexeme, rest ++ '\n' :: more) :=
    scan_ahead (by decide) found (.inl rfl) more
  cases steps_of_ok stepped with
  | comment found | layout found =>
    unfold Reading.step
    simp only [ahead found]
    rfl
  | token found emitted =>
    unfold Reading.step
    simp only [ahead found]
    exact bind_eq_ok.mpr ⟨_, emit_ahead emitted _, rfl⟩
  | ended empty => exact absurd empty filled

/-- A text that is read to its end is read so in front of a line break. -/
theorem leads_ahead {fuel : Nat} (enough : r.rest.length ≤ fuel) (ran : r.run fuel = .ok q)
    (more : List Char) :
    q.rest = [] ∧ { r with rest := r.rest ++ '\n' :: more }.Leads { q with rest := '\n' :: more } := by
  induction fuel generalizing r with
  | zero =>
    cases ran
    have empty := List.length_eq_zero_iff.mp (Nat.le_zero.mp enough)
    rw [empty]
    exact ⟨rfl, .refl _⟩
  | succ fuel ih =>
    by_cases empty : r.rest = []
    · rw [run_of_nil empty] at ran
      cases ran
      rw [empty]
      exact ⟨rfl, .refl _⟩
    · rw [Reading.run, List.isEmpty_eq_false_iff.mpr empty] at ran
      obtain ⟨next, stepped, later⟩ := bind_eq_ok.mp ran
      have shorter := step_shorter empty stepped
      obtain ⟨done, leads⟩ := ih (by omega) later
      refine ⟨done, .step ?_ (step_ahead empty stepped more) leads⟩
      simp only [List.length_append]
      omega

/-- Where a declaration may start. -/
structure AtDeclaration (file : SourceFile) (rest : List Char) (r : Reading) : Prop where
  rest : r.rest = rest
  mode : r.mode = .imports file ∨ r.mode = .decls file
  sound : r.fault = none
  ended : r.last.any Token.endsStatement = false

theorem mode_of_ended (fed : r.feed r.endToken = .ok last) (done : last.mode = .done file)
    (sound : last.fault = none) : (r.mode = .imports file ∨ r.mode = .decls file) ∧ r.fault = none := by
  obtain ⟨step, advanced, rfl⟩ := feed_eq_ok.mp fed
  have clean : r.fault = none := by
    cases known : r.fault with
    | none => rfl
    | some fault => simp [known] at sound
  cases mode : r.mode with
  | imports before =>
    rw [mode] at advanced
    cases advanced
    cases done
    exact ⟨.inl rfl, clean⟩
  | decls before =>
    rw [mode] at advanced
    cases advanced
    cases done
    exact ⟨.inr rfl, clean⟩
  | skipOpen b outer =>
    rw [mode] at advanced
    cases b <;> cases advanced
  | _ =>
    rw [mode] at advanced
    cases advanced

/-- Behind a text that is a file, a line break leads to where a declaration may start. -/
theorem leads_lineBreak (finished : r.finish = .ok last) (done : last.mode = .done file)
    (sound : last.fault = none) (more : List Char) :
    ∃ q, { r with rest := '\n' :: more }.Leads q ∧ q.AtDeclaration file more := by
  have shorter : more.length < ('\n' :: more).length := Nat.lt_succ_self _
  have step (after : Reading) (emitted : r.emit ⟨.newline, String.ofList ['\n'], r.pos⟩ = .ok after) :
      { r with rest := '\n' :: more }.step =
        .ok ({ after with rest := '\n' :: more }.move ['\n'] more) := by
    unfold Reading.step
    simp only [scan_lineBreak]
    exact bind_eq_ok.mpr ⟨_, emit_ahead emitted _, rfl⟩
  unfold Reading.finish at finished
  cases closes : r.last.any Token.endsStatement with
  | false =>
    have open' : atEnd r.last = none := by
      unfold atEnd
      cases known : r.last with
      | none => rfl
      | some t =>
        rw [known] at closes
        simpa [Option.filter] using closes
    have dropped : r.emit ⟨.newline, String.ofList ['\n'], r.pos⟩ = .ok r := by
      simp [Reading.emit, afterToken, closes]
    rw [open'] at finished
    obtain ⟨mode, clean⟩ := mode_of_ended finished done sound
    exact ⟨_, .step shorter (step r dropped) (.refl _), rfl, mode, clean, closes⟩
  | true =>
    obtain ⟨t, known, ends⟩ := (Option.any_eq_true _ _).mp closes
    have closing : atEnd r.last = some (semicolonAt t.pos) := by
      simp [atEnd, known, Option.filter, ends]
    rw [closing] at finished
    obtain ⟨closed, fed, ended⟩ := bind_eq_ok.mp finished
    obtain ⟨mode, clean⟩ := mode_of_ended ended done sound
    obtain ⟨next, advanced, rfl⟩ := feed_eq_ok.mp fed
    have stands : r.emit ⟨.newline, String.ofList ['\n'], r.pos⟩ = r.feed (semicolonAt r.pos) := by
      simp [Reading.emit, afterToken, closes]
    rw [advance_semicolon _ _ _ r.pos] at advanced
    have emitted := stands.trans (feed_eq_ok.mpr ⟨next, advanced, rfl⟩)
    exact ⟨_, .step shorter (step _ emitted) (.refl _), rfl, mode, clean, rfl⟩

end Reading

end Parser

end Syntax

end GoIdl
