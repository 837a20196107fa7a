import Mathlib.Algebra.Group.Nat.Defs
import GoIdl.Proofs.Tag.Merging
import GoIdl.Proofs.Text.Bounds

/-!
# The grammar of tags

A tag is a sequence of written pairs with any number of spaces before, between and after them. Reading
follows this grammar: it gives the pairs of the only sequence that a text is, and refuses every other
text as malformed, unless it meets an escape beyond the last character before it gets that far.
-/

namespace GoIdl

/-! ### Written pairs -/

namespace Tag

/-- What may stand between quotes: a quote or a backslash only behind a backslash. -/
inductive IsValue : List Char → Prop where
  | nil : IsValue []
  | plain {c : Char} {body : List Char} (quote : c ≠ '"') (backslash : c ≠ '\\')
      (more : IsValue body) : IsValue (c :: body)
  | escaped (c : Char) {body : List Char} (more : IsValue body) : IsValue ('\\' :: c :: body)

/-- The value holds a `\U` escape beyond the last character. -/
def Beyond (body : List Char) : Prop :=
  ∃ before digits after number, body = before ++ '\\' :: 'U' :: (digits ++ after) ∧ IsValue before ∧
    digits.length = 8 ∧ Text.hexNumber digits = some number ∧ 0x110000 ≤ number

/-- A key and the text between the quotes of its value. -/
structure Written where
  key : List Char
  value : List Char

namespace Written

def text (w : Written) : List Char := w.key ++ ':' :: '"' :: (w.value ++ ['"'])

/-- The value with its quotes. -/
def literal (w : Written) : List Char := '"' :: (w.value ++ ['"'])

structure Proper (w : Written) : Prop where
  named : w.key ≠ []
  key : ∀ c ∈ w.key, ' ' < c ∧ c ≠ ':' ∧ c ≠ '"' ∧ c ≠ '\x7f'
  value : IsValue w.value

/-- The pair that stands for a written one: the value without quotes and escapes, cut at every
comma. -/
structure Gives (w : Written) (pair : String × FieldTag) : Prop where
  key : pair.1.toList = w.key
  value : Syntax.unquoteChars w.literal = .ok pair.2.body
  cut : ∀ piece ∈ pair.2.value :: pair.2.options, ',' ∉ piece.toList

end Written

/-- The text is this sequence of written pairs. -/
inductive Consists : List Char → List Written → Prop where
  | nil : Consists [] []
  | space {s : List Char} {ws : List Written} (more : Consists s ws) : Consists (' ' :: s) ws
  | pair {w : Written} {s : List Char} {ws : List Written} (proper : w.Proper) (more : Consists s ws) :
      Consists (w.text ++ s) (w :: ws)

/-- The text starts with these written pairs, whatever follows them. -/
def Starts (s : List Char) (ws : List Written) : Prop := ∃ head, head <+: s ∧ Consists head ws

variable {w other : Written} {ws : List Written} {s rest body : List Char}

/-! ### Values -/

theorem isValue_cons {c : Char} (backslash : c ≠ '\\') (value : IsValue (c :: body)) : IsValue body := by
  cases value with
  | plain _ _ more => exact more
  | escaped _ _ => exact absurd rfl backslash

theorem valueBody_eq_some_iff : valueBody s = some (body, rest) ↔ IsValue body ∧ s = body ++ '"' :: rest := by
  constructor
  · intro found
    refine ⟨?_, valueBody_append found⟩
    induction s using valueBody.induct generalizing body with
    | case1 => cases found
    | case2 =>
      cases found
      exact .nil
    | case3 => cases found
    | case4 c s ih =>
      obtain ⟨⟨inside, after⟩, found, same⟩ := Option.map_eq_some_iff.mp found
      cases same
      exact .escaped c (ih found)
    | case5 c s quote single double ih =>
      rw [valueBody.eq_5 _ _ quote single double] at found
      obtain ⟨⟨inside, after⟩, found, same⟩ := Option.map_eq_some_iff.mp found
      cases same
      -- A backslash in front of anything, or of nothing, has been met in the cases before.
      have backslash : c ≠ '\\' := by
        rintro rfl
        cases s with
        | nil => exact single rfl rfl
        | cons d s => exact double d s rfl rfl
      exact .plain quote backslash (ih found)
  · rintro ⟨value, rfl⟩
    induction value with
    | nil => rfl
    | plain quote backslash _ ih =>
      rw [List.cons_append, valueBody_ordinary quote backslash, ih, Option.map_some]
    | escaped c _ ih => rw [List.cons_append, List.cons_append, valueBody, ih, Option.map_some]

/-! ### Escapes -/

theorem hexValue_digit {d : Char} {value : Nat} (digit : Text.hexValue d = some value) :
    (d ≠ '\\' ∧ d ≠ '"') ∧ value < 16 := by
  refine ⟨⟨?_, ?_⟩, ?_⟩
  · rintro rfl
    cases digit
  · rintro rfl
    cases digit
  · unfold Text.hexValue at digit
    split at digit
    · rename_i decimal
      cases digit
      simp only [Char.isDigit, Bool.and_eq_true, decide_eq_true_eq, UInt32.le_iff_toNat_le] at decimal
      change d.toNat - 48 < 16
      change 48 ≤ d.toNat ∧ d.toNat ≤ 57 at decimal
      omega
    · split at digit
      · rename_i letter
        cases digit
        change d.toNat - 97 + 10 < 16
        have letter : 97 ≤ d.toNat ∧ d.toNat ≤ 102 := letter
        omega
      · split at digit
        · rename_i letter
          cases digit
          change d.toNat - 65 + 10 < 16
          have letter : 65 ≤ d.toNat ∧ d.toNat ≤ 70 := letter
          omega
        · cases digit

theorem hexNumber_digits {digits : List Char} {number : Nat} (read : Text.hexNumber digits = some number) :
    (∀ d ∈ digits, d ≠ '\\' ∧ d ≠ '"') ∧ number < 16 ^ digits.length := by
  have each : ∀ (digits : List Char) (start : Nat),
      digits.foldlM (fun n c => (Text.hexValue c).map (n * 16 + ·)) start = some number →
      (∀ d ∈ digits, d ≠ '\\' ∧ d ≠ '"') ∧ number < (start + 1) * 16 ^ digits.length := by
    intro digits
    induction digits with
    | nil =>
      intro start read
      cases read
      exact ⟨by simp, by simp⟩
    | cons d digits ih =>
      intro start read
      rw [List.foldlM_cons] at read
      obtain ⟨next, first, later⟩ := Option.bind_eq_some_iff.mp read
      obtain ⟨value, digit, rfl⟩ := Option.map_eq_some_iff.mp first
      obtain ⟨plain, small⟩ := hexValue_digit digit
      obtain ⟨others, below⟩ := ih _ later
      refine ⟨List.forall_mem_cons.mpr ⟨plain, others⟩, Nat.lt_of_lt_of_le below ?_⟩
      rw [List.length_cons, Nat.pow_succ', ← Nat.mul_assoc]
      exact Nat.mul_le_mul_right _ (by omega)
  simpa using each digits 0 read

theorem octal_value {c : Char} (octal : Syntax.isOctal c = true) :
    (c ≠ '\\' ∧ c ≠ '"') ∧ c.toNat - '0'.toNat ≤ 7 := by
  have digit : 48 ≤ c.toNat ∧ c.toNat ≤ 55 := of_decide_eq_true octal
  refine ⟨⟨?_, ?_⟩, ?_⟩
  · rintro rfl
    cases octal
  · rintro rfl
    cases octal
  · change c.toNat - 48 ≤ 7
    omega

theorem hexEscape_eq_some {k n width : Nat}
    (read : (Syntax.hexEscape k rest).map (fun p => (p.1, p.2 + 1)) = some (n, width)) :
    ∃ digits after, rest = digits ++ after ∧ width = digits.length + 1 ∧ digits.length = k ∧
      Text.hexNumber digits = some n := by
  obtain ⟨⟨m, w⟩, inside, same⟩ := Option.map_eq_some_iff.mp read
  cases same
  simp only [Syntax.hexEscape] at inside
  split at inside
  · cases inside
  · rename_i long
    obtain ⟨_, number, same⟩ := Option.map_eq_some_iff.mp inside
    cases same
    have length : (rest.take k).length = k := by
      rw [List.length_take] at long ⊢
      omega
    exact ⟨rest.take k, rest.drop k, (List.take_append_drop k rest).symm, by rw [length], length, number⟩

/-- What an escape takes besides its letter. Only the longest kind goes beyond the last character. -/
def Takes (letter : Char) (rest : List Char) (n width : Nat) : Prop :=
  ∃ digits after, rest = digits ++ after ∧ width = digits.length + 1 ∧
    (∀ d ∈ digits, d ≠ '\\' ∧ d ≠ '"') ∧
    (0x110000 ≤ n → letter = 'U' ∧ digits.length = 8 ∧ Text.hexNumber digits = some n)

theorem Takes.shortHex {letter : Char} {k n width : Nat} (few : k ≤ 4)
    (read : (Syntax.hexEscape k rest).map (fun p => (p.1, p.2 + 1)) = some (n, width)) :
    Takes letter rest n width := by
  obtain ⟨digits, after, whole, takes, length, number⟩ := hexEscape_eq_some read
  obtain ⟨plain, small⟩ := hexNumber_digits number
  have bound : 16 ^ digits.length ≤ 16 ^ 4 := Nat.pow_le_pow_right (by decide) (by omega)
  exact ⟨digits, after, whole, takes, plain, fun beyond => absurd small (by omega)⟩

theorem Takes.octal {a b d : Char} {after : List Char}
    (octal : (Syntax.isOctal a && Syntax.isOctal b && Syntax.isOctal d) = true) :
    Takes a (b :: d :: after) ([a, b, d].foldl (fun n c => n * 8 + (c.toNat - '0'.toNat)) 0) 3 := by
  simp only [Bool.and_eq_true] at octal
  obtain ⟨-, first⟩ := octal_value octal.1.1
  obtain ⟨plain, second⟩ := octal_value octal.1.2
  obtain ⟨plain', third⟩ := octal_value octal.2
  refine ⟨[b, d], after, rfl, rfl, by simp [plain, plain'], fun beyond => ?_⟩
  simp only [List.foldl_cons, List.foldl_nil] at beyond
  omega

theorem escape?_eq_some {c : Char} {n width : Nat} (found : Syntax.escape? (c :: rest) = some (n, width)) :
    Takes c rest n width := by
  simp only [Syntax.escape?] at found
  split at found
  · rename_i d simple
    cases found
    have valid : d.toNat < 0xd800 ∨ 0xdfff < d.toNat ∧ d.toNat < 0x110000 := d.valid
    exact ⟨[], rest, rfl, rfl, by simp, fun beyond => absurd valid (by omega)⟩
  · split at found
    · exact .shortHex (by decide) found
    · split at found
      · exact .shortHex (by decide) found
      · split at found
        · rename_i letter
          obtain ⟨digits, after, whole, takes, length, number⟩ := hexEscape_eq_some found
          exact ⟨digits, after, whole, takes, (hexNumber_digits number).1, fun _ => ⟨letter, length, number⟩⟩
        · split at found
          · split at found
            · rename_i octal
              cases found
              exact .octal octal
            · cases found
          · cases found

theorem resolveEscapes_skip (digits after : List Char) :
    Syntax.resolveEscapes digits.length (digits ++ after) = Syntax.resolveEscapes 0 after := by
  induction digits with
  | nil => rfl
  | cons d digits ih => rw [List.length_cons, List.cons_append, Syntax.resolveEscapes, ih]

theorem isValue_append {digits : List Char} (plain : ∀ d ∈ digits, d ≠ '\\' ∧ d ≠ '"') :
    IsValue (digits ++ rest) ↔ IsValue rest := by
  induction digits with
  | nil => rfl
  | cons d digits ih =>
    obtain ⟨here, later⟩ := List.forall_mem_cons.mp plain
    rw [← ih later]
    exact ⟨isValue_cons here.1, .plain here.2 here.1⟩

theorem beyond_append {digits : List Char} (plain : ∀ d ∈ digits, d ≠ '\\' ∧ d ≠ '"') :
    Beyond (digits ++ rest) ↔ Beyond rest := by
  constructor
  · rintro ⟨before, code, after, number, whole, value, beyond⟩
    rcases List.append_eq_append_iff.mp whole with ⟨more, rfl, found⟩ | ⟨more, rfl, found⟩
    · exact ⟨more, code, after, number, found, (isValue_append plain).mp value, beyond⟩
    · cases more with
      | nil => exact ⟨[], code, after, number, found.symm, .nil, beyond⟩
      | cons d more =>
        obtain ⟨rfl, -⟩ := List.cons.inj found
        exact absurd rfl (plain '\\' (by simp)).1
  · rintro ⟨before, code, after, number, rfl, value, beyond⟩
    exact ⟨digits ++ before, code, after, number, by rw [List.append_assoc],
      (isValue_append plain).mpr value, beyond⟩

/-- An escape is taken as a whole: its own number is beyond, or something behind it is. -/
theorem beyond_escaped {c : Char} : Beyond ('\\' :: c :: body) ↔
    (∃ n width, Syntax.escape? (c :: body) = some (n, width) ∧ 0x110000 ≤ n) ∨ Beyond body := by
  constructor
  · rintro ⟨before, code, after, number, whole, value, length, read, beyond⟩
    cases value with
    | nil =>
      cases whole
      have escape : Syntax.escape? ('U' :: (code ++ after)) = some (number, 9) := by
        simp [Syntax.escape?, Syntax.simpleEscape, Syntax.hexEscape, ← length, read]
      exact .inl ⟨number, 9, escape, beyond⟩
    | plain _ backslash _ => exact absurd (List.cons.inj whole).1.symm backslash
    | escaped _ more =>
      cases whole
      exact .inr ⟨_, code, after, number, rfl, more, length, read, beyond⟩
  · rintro (⟨n, width, escape, beyond⟩ | ⟨before, code, after, number, rfl, value, beyond⟩)
    · obtain ⟨code, after, rfl, -, -, longest⟩ := escape?_eq_some escape
      obtain ⟨rfl, length, read⟩ := longest beyond
      exact ⟨[], code, after, n, rfl, .nil, length, read, beyond⟩
    · exact ⟨_, code, after, number, rfl, .escaped c value, beyond⟩

/-- Resolving fails at an escape beyond the last character, and nowhere else. -/
theorem resolveEscapes_fails_iff (value : IsValue body) :
    (∃ fault, Syntax.resolveEscapes 0 body = .error fault) ↔ Beyond body := by
  induction length : body.length using Nat.strongRecOn generalizing body with
  | ind length ih =>
    subst length
    cases value with
    | nil => simp [Syntax.resolveEscapes, Beyond]
    | @plain c body quote backslash more =>
      have single : ∀ d ∈ [c], d ≠ '\\' ∧ d ≠ '"' := by simp [quote, backslash]
      simp only [Syntax.resolveEscapes, if_neg backslash, map_eq_error]
      rw [ih _ (Nat.lt_succ_self _) more rfl]
      exact (beyond_append single).symm
    | @escaped c body more =>
      rw [Syntax.resolveEscapes, if_pos rfl, beyond_escaped]
      cases escape : Syntax.escape? (c :: body) with
      | none =>
        -- Two backslashes are an escape, so that `c` stands for itself.
        have backslash : c ≠ '\\' := by
          rintro rfl
          cases escape
        have rest := ih _ (Nat.lt_succ_of_lt (Nat.lt_succ_self _)) more rfl
        simpa [Syntax.resolveEscapes, backslash, map_eq_error] using rest
      | some found =>
        obtain ⟨n, width⟩ := found
        obtain ⟨digits, after, rfl, rfl, plain, -⟩ := escape?_eq_some escape
        have rest := ih after.length (by simp; omega) ((isValue_append plain).mp more) rfl
        by_cases beyond : 0x110000 ≤ n
        · simp [Syntax.charOfNumber, beyond, bind, Except.bind]
        · obtain ⟨d, number⟩ : ∃ d, Syntax.charOfNumber n = .ok d := by
            unfold Syntax.charOfNumber
            rw [if_neg beyond]
            split <;> exact ⟨_, rfl⟩
          have resolved : Syntax.resolveEscapes (digits.length + 1) (c :: (digits ++ after)) =
              Syntax.resolveEscapes 0 after := resolveEscapes_skip (c :: digits) after
          rw [beyond_append plain, ← rest]
          simp [number, resolved, beyond, bind_eq_error, Except.pure, pure]

/-! ### Sequences -/

theorem Written.Proper.isKeyChar (proper : w.Proper) : ∀ c ∈ w.key, isKeyChar c = true := by
  intro c member
  obtain ⟨above, colon, quote, delete⟩ := proper.key c member
  simp [Tag.isKeyChar, above, colon, quote, delete]

theorem text_append (w : Written) (rest : List Char) :
    w.text ++ rest = w.key ++ ':' :: '"' :: (w.value ++ '"' :: rest) := by
  simp [Written.text]

theorem text_inj (proper : w.Proper) (properly : other.Proper) (same : w.text ++ s = other.text ++ rest) :
    w = other ∧ s = rest := by
  have keys : w.key = other.key := by
    have before : ∀ {w : Written} {rest : List Char}, w.Proper →
        (w.text ++ rest).takeWhile isKeyChar = w.key := by
      intro w rest proper
      rw [text_append, List.takeWhile_append_of_pos proper.isKeyChar]
      simp [isKeyChar]
    rw [← before proper, same, before properly]
  rw [text_append, text_append, keys] at same
  simp only [List.append_cancel_left_eq, List.cons.injEq, true_and] at same
  have read : valueBody (w.value ++ '"' :: s) = some (w.value, s) :=
    valueBody_eq_some_iff.mpr ⟨proper.value, rfl⟩
  rw [same, valueBody_eq_some_iff.mpr ⟨properly.value, rfl⟩] at read
  obtain ⟨values, rests⟩ := Prod.mk.inj (Option.some.inj read)
  exact ⟨by cases w; cases other; simp_all, rests.symm⟩

theorem text_ne_space (proper : w.Proper) : w.text ++ rest ≠ ' ' :: s := by
  rw [text_append]
  cases key : w.key with
  | nil => exact absurd key proper.named
  | cons c more =>
    intro same
    have above := (proper.key c (key ▸ List.mem_cons_self)).1
    rw [(List.cons.inj same).1] at above
    exact absurd above (by decide)

@[simp] theorem consists_nil : Consists [] ws ↔ ws = [] := by
  constructor
  · intro consists
    generalize empty : ([] : List Char) = s at consists
    cases consists with
    | nil => rfl
    | space => cases empty
    | pair => simp [text_append] at empty
  · rintro rfl
    exact .nil

theorem consists_space : Consists (' ' :: s) ws ↔ Consists s ws := by
  refine ⟨fun consists => ?_, .space⟩
  generalize whole : ' ' :: s = text at consists
  cases consists with
  | nil => cases whole
  | space more => rwa [(List.cons.inj whole).2]
  | pair proper _ => exact absurd whole.symm (text_ne_space proper)

theorem consists_text (proper : w.Proper) :
    Consists (w.text ++ s) ws ↔ ∃ more, ws = w :: more ∧ Consists s more := by
  constructor
  · intro consists
    generalize whole : w.text ++ s = text at consists
    cases consists with
    | nil => simp [text_append] at whole
    | space more => exact absurd whole (text_ne_space proper)
    | pair properly more =>
      obtain ⟨rfl, rfl⟩ := text_inj proper properly whole
      exact ⟨_, rfl, more⟩
  · rintro ⟨more, rfl, consists⟩
    exact .pair proper consists

theorem starts_nil (s : List Char) : Starts s [] := ⟨[], List.nil_prefix, .nil⟩

theorem starts_space : Starts (' ' :: s) ws ↔ Starts s ws := by
  constructor
  · rintro ⟨head, part, consists⟩
    cases head with
    | nil =>
      rw [consists_nil.mp consists]
      exact starts_nil s
    | cons c head =>
      obtain ⟨rfl, part'⟩ := List.cons_prefix_cons.mp part
      exact ⟨head, part', consists_space.mp consists⟩
  · rintro ⟨head, part, consists⟩
    exact ⟨' ' :: head, List.cons_prefix_cons.mpr ⟨rfl, part⟩, .space consists⟩

theorem starts_text (proper : w.Proper) (filled : ws ≠ []) :
    Starts (w.text ++ s) ws ↔ ∃ more, ws = w :: more ∧ Starts s more := by
  constructor
  · rintro ⟨head, ⟨after, whole⟩, consists⟩
    cases consists with
    | nil => exact absurd rfl filled
    | space => exact absurd whole.symm (text_ne_space proper)
    | @pair other s' more properly consists =>
      rw [List.append_assoc] at whole
      obtain ⟨rfl, rfl⟩ := text_inj proper properly whole.symm
      exact ⟨more, rfl, s', List.prefix_append _ _, consists⟩
  · rintro ⟨more, rfl, head, part, consists⟩
    exact ⟨w.text ++ head, List.prefix_append_right_inj _ |>.mpr part, .pair proper consists⟩

/-- A text that starts with neither a space nor a written pair starts with none. -/
theorem starts_otherwise (space : ∀ rest, s ≠ ' ' :: rest)
    (pair : ∀ (w : Written) rest, w.Proper → s ≠ w.text ++ rest) (starts : Starts s ws) : ws = [] := by
  obtain ⟨head, ⟨after, rfl⟩, consists⟩ := starts
  cases consists with
  | nil => rfl
  | space => exact absurd rfl (space _)
  | pair proper => exact absurd (List.append_assoc ..) (pair _ _ proper)

theorem Consists.starts (consists : Consists s ws) : Starts s ws := ⟨s, List.prefix_rfl, consists⟩

/-- The pairs that a text starts with are the first of those that it consists of. -/
theorem Consists.starts_prefix {first : List Written} (consists : Consists s ws) (starts : Starts s first) :
    first <+: ws := by
  induction consists generalizing first with
  | nil =>
    obtain ⟨head, part, consists⟩ := starts
    rw [List.prefix_nil.mp part] at consists
    rw [consists_nil.mp consists]
  | space _ ih => exact ih (starts_space.mp starts)
  | pair proper _ ih =>
    by_cases filled : first = []
    · rw [filled]
      exact List.nil_prefix
    · obtain ⟨more, rfl, later⟩ := (starts_text proper filled).mp starts
      exact List.cons_prefix_cons.mpr ⟨rfl, ih later⟩

theorem Consists.unique {others : List Written} (consists : Consists s ws) (also : Consists s others) :
    ws = others := by
  have first := also.starts_prefix consists.starts
  have second := consists.starts_prefix also.starts
  exact first.eq_of_length_le second.length_le

/-! ### Reading -/

theorem unquoteChars_literal (w : Written) :
    Syntax.unquoteChars w.literal = Syntax.resolveEscapes 0 w.value := by
  have last : ('"' :: (w.value ++ ['"'])).getLast? = some '"' := List.getLast?_concat (l := '"' :: w.value)
  have raw : Syntax.isBetween '`' w.literal = false := by simp [Syntax.isBetween, Written.literal]
  have quoted : Syntax.isBetween '"' w.literal = true := by
    simp [Syntax.isBetween, Written.literal, last]
  have inner : Syntax.inner w.literal = w.value := by simp [Syntax.inner, Written.literal]
  rw [Syntax.unquoteChars, raw, quoted, inner]
  rfl

theorem firstPair_text (proper : w.Proper) : firstPair (w.text ++ rest) =
    match Syntax.resolveEscapes 0 w.value with
    | .ok value => .ok ((String.ofList w.key, fieldTag value), rest)
    | .error fault => .error (.escape fault) := by
  have spanned : (w.text ++ rest).span isKeyChar = (w.key, ':' :: '"' :: (w.value ++ '"' :: rest)) := by
    rw [text_append]
    exact span_of_append proper.isKeyChar (by simp [isKeyChar])
  have bodied : valueBody (w.value ++ '"' :: rest) = some (w.value, rest) :=
    valueBody_eq_some_iff.mpr ⟨proper.value, rfl⟩
  unfold firstPair
  rw [spanned]
  cases resolved : Syntax.resolveEscapes 0 w.value <;> simp [proper.named, bodied, resolved]

theorem firstPair_malformed (pair : ∀ (w : Written) rest, w.Proper → s ≠ w.text ++ rest) :
    ∃ fault, firstPair s = .error (.malformed fault) := by
  unfold firstPair
  dsimp only
  split
  · exact ⟨.key, rfl⟩
  · rename_i named
    split
    · rename_i inside left
      cases bodied : valueBody inside with
      | none => exact ⟨.value, rfl⟩
      | some found =>
        obtain ⟨body, rest⟩ := found
        obtain ⟨value, rfl⟩ := valueBody_eq_some_iff.mp bodied
        exfalso
        refine pair ⟨(s.span isKeyChar).1, body⟩ rest ⟨by simpa using named, ?_, value⟩ ?_
        · intro c member
          have kept := span_passes isKeyChar s c member
          simpa [isKeyChar, and_assoc] using kept
        · rw [text_append, ← left, span_append]
    · exact ⟨.value, rfl⟩
    · exact ⟨.pair, rfl⟩

theorem gives_of_resolved {value : List Char} (resolved : Syntax.resolveEscapes 0 w.value = .ok value) :
    w.Gives (String.ofList w.key, fieldTag value) where
  key := String.toList_ofList
  value := by rw [unquoteChars_literal, resolved, body_fieldTag]
  cut := fieldTag_cut value

theorem pairs_step {fuel : Nat} (filled : s ≠ []) (space : ∀ rest, s ≠ ' ' :: rest) :
    pairs (fuel + 1) s = firstPair s >>= fun first => (pairs fuel first.2).map (first.1 :: ·) := by
  have started : s.dropWhile (· == ' ') = s := by
    cases s with
    | nil => rfl
    | cons c s =>
      have other : c ≠ ' ' := fun same => space s (by rw [same])
      simp [other]
  rw [pairs, started]
  cases s with
  | nil => exact absurd rfl filled
  | cons c s =>
    dsimp only
    cases firstPair (c :: s) with
    | error => rfl
    | ok first =>
      change (pairs fuel first.2 >>= fun rest => pure (first.1 :: rest)) =
        (pairs fuel first.2).map (first.1 :: ·)
      cases pairs fuel first.2 <;> rfl

/-- What reading makes of a text: the pairs that it consists of, an escape beyond the last character in
one of the pairs that it starts with, or neither. -/
inductive Reads (s : List Char) : Except Fault (List (String × FieldTag)) → Prop where
  | pairs {ws : List Written} {ps : List (String × FieldTag)} (consists : Consists s ws)
      (bounded : ∀ w ∈ ws, ¬ Beyond w.value) (gives : List.Forall₂ Written.Gives ws ps) : Reads s (.ok ps)
  | beyond {ws : List Written} (fault : Syntax.EscapeFault) (starts : Starts s ws)
      (held : ∃ w ∈ ws, Beyond w.value) : Reads s (.error (.escape fault))
  | malformed (fault : TagFault) (none : ¬ ∃ ws, Consists s ws)
      (bounded : ∀ ws, Starts s ws → ∀ w ∈ ws, ¬ Beyond w.value) : Reads s (.error (.malformed fault))

/-- A space in front changes nothing. -/
theorem Reads.space {outcome : Except Fault (List (String × FieldTag))} (reads : Reads s outcome) :
    Reads (' ' :: s) outcome := by
  cases reads with
  | pairs consists bounded gives => exact .pairs (.space consists) bounded gives
  | beyond fault starts held => exact .beyond fault (starts_space.mpr starts) held
  | malformed fault none bounded =>
    refine .malformed fault ?_ fun ws starts => bounded ws (starts_space.mp starts)
    rintro ⟨ws, consists⟩
    exact none ⟨ws, consists_space.mp consists⟩

/-- A pair in front is read first. -/
theorem Reads.pair {value : List Char} {outcome : Except Fault (List (String × FieldTag))}
    (proper : w.Proper) (resolved : Syntax.resolveEscapes 0 w.value = .ok value) (reads : Reads s outcome) :
    Reads (w.text ++ s) (outcome.map ((String.ofList w.key, fieldTag value) :: ·)) := by
  have within : ¬ Beyond w.value := by
    rw [← resolveEscapes_fails_iff proper.value, resolved]
    rintro ⟨_, ⟨⟩⟩
  cases reads with
  | pairs consists bounded gives =>
    exact .pairs (.pair proper consists) (List.forall_mem_cons.mpr ⟨within, bounded⟩)
      (.cons (gives_of_resolved resolved) gives)
  | @beyond ws fault starts held =>
    obtain ⟨other, listed, beyond⟩ := held
    exact .beyond fault ((starts_text proper (List.cons_ne_nil _ _)).mpr ⟨ws, rfl, starts⟩)
      ⟨other, List.mem_cons_of_mem _ listed, beyond⟩
  | malformed fault none bounded =>
    refine .malformed fault ?_ fun ws starts => ?_
    · rintro ⟨ws, consists⟩
      obtain ⟨more, rfl, later⟩ := (consists_text proper).mp consists
      exact none ⟨more, later⟩
    · by_cases filled : ws = []
      · simp [filled]
      · obtain ⟨more, rfl, later⟩ := (starts_text proper filled).mp starts
        exact List.forall_mem_cons.mpr ⟨within, bounded more later⟩

theorem pairs_reads {fuel : Nat} (enough : s.length ≤ fuel) : Reads s (pairs fuel s) := by
  induction length : s.length using Nat.strongRecOn generalizing s fuel with
  | ind length ih =>
    subst length
    by_cases filled : s = []
    · subst filled
      have none : pairs fuel [] = .ok [] := by cases fuel <;> simp [pairs]
      rw [none]
      exact .pairs .nil (by simp) .nil
    · by_cases spaced : ∃ rest, s = ' ' :: rest
      · obtain ⟨rest, rfl⟩ := spaced
        rw [List.length_cons] at enough
        rw [pairs_blank]
        exact (ih rest.length (Nat.lt_succ_self _) (by omega) rfl).space
      · have space : ∀ rest, s ≠ ' ' :: rest := fun rest same => spaced ⟨rest, same⟩
        obtain ⟨fuel, rfl⟩ := Nat.exists_eq_add_one.mpr
          (Nat.lt_of_lt_of_le (List.length_pos_iff.mpr filled) enough)
        rw [pairs_step filled space]
        by_cases paired : ∃ (w : Written) (rest : List Char), w.Proper ∧ s = w.text ++ rest
        · obtain ⟨w, rest, proper, rfl⟩ := paired
          have shorter : rest.length < (w.text ++ rest).length := by simp [Written.text]; omega
          rw [firstPair_text proper]
          cases resolved : Syntax.resolveEscapes 0 w.value with
          | error fault =>
            have beyond := (resolveEscapes_fails_iff proper.value).mp ⟨fault, resolved⟩
            exact .beyond fault ((starts_text proper (List.cons_ne_nil _ _)).mpr ⟨[], rfl, starts_nil _⟩)
              ⟨w, List.mem_singleton_self w, beyond⟩
          | ok value => exact (ih rest.length shorter (by omega) rfl).pair proper resolved
        · have pair : ∀ (w : Written) rest, w.Proper → s ≠ w.text ++ rest :=
            fun w rest proper same => paired ⟨w, rest, proper, same⟩
          obtain ⟨fault, failed⟩ := firstPair_malformed pair
          have none : ∀ ws, Starts s ws → ws = [] := fun ws => starts_otherwise space pair
          rw [failed]
          refine .malformed fault ?_ fun ws starts => by simp [none ws starts]
          rintro ⟨ws, consists⟩
          obtain rfl := none ws consists.starts
          cases consists with
          | nil => exact filled rfl
          | space => exact space _ rfl

theorem split?_reads (tag : String) : Reads tag.toList (split? tag) := pairs_reads (Nat.le_refl _)

/-- A tag is read exactly if it is a sequence of written pairs, which then is the only one: the pairs
are those of the sequence in order. Every other tag is malformed. Apart from both are the tags that
start with a pair whose value holds an escape beyond the last character. -/
theorem split_exactly (tag : String) (location : Option Syntax.Location) :
    (∀ ws others, Consists tag.toList ws → Consists tag.toList others → ws = others) ∧
      (∀ ws, Consists tag.toList ws → (∀ w ∈ ws, ¬ Beyond w.value) →
        ∃ ps, split tag location = .ok ps ∧ List.Forall₂ Written.Gives ws ps) ∧
      ((∃ fault, split tag location =
          .error (.definition { cause := .malformedTag tag fault, location })) ↔
        (¬ ∃ ws, Consists tag.toList ws) ∧
          ∀ ws, Starts tag.toList ws → ∀ w ∈ ws, ¬ Beyond w.value) ∧
      ((∃ fault, split tag location = .error (.escape fault)) ↔
        ∃ ws, Starts tag.toList ws ∧ ∃ w ∈ ws, Beyond w.value) := by
  have reads := split?_reads tag
  refine ⟨fun ws others first second => first.unique second, ?_⟩
  unfold split
  generalize split? tag = outcome at reads
  cases reads with
  | @pairs ws ps consists bounded gives =>
    have within : ∀ first, Starts tag.toList first → ∀ w ∈ first, ¬ Beyond w.value :=
      fun first starts w listed => bounded w ((consists.starts_prefix starts).subset listed)
    refine ⟨fun others also _ => ⟨ps, rfl, consists.unique also ▸ gives⟩, ⟨nofun, ?_⟩, ⟨nofun, ?_⟩⟩
    · rintro ⟨none, -⟩
      exact absurd ⟨ws, consists⟩ none
    · rintro ⟨first, starts, w, listed, beyond⟩
      exact absurd beyond (within first starts w listed)
  | @beyond ws fault starts held =>
    obtain ⟨w, listed, beyond⟩ := held
    refine ⟨fun others consists bounded => ?_, ⟨nofun, ?_⟩, fun _ => ⟨ws, starts, w, listed, beyond⟩,
      fun _ => ⟨fault, rfl⟩⟩
    · exact absurd beyond (bounded w ((consists.starts_prefix starts).subset listed))
    · rintro ⟨-, bounded⟩
      exact absurd beyond (bounded ws starts w listed)
  | malformed fault none bounded =>
    refine ⟨fun ws consists => absurd ⟨ws, consists⟩ none, ⟨fun _ => ⟨none, bounded⟩, fun _ => ⟨fault, rfl⟩⟩,
      nofun, ?_⟩
    rintro ⟨ws, starts, w, listed, beyond⟩
    exact absurd beyond (bounded ws starts w listed)

/-- Nothing need stand between two pairs, and a quote behind a backslash does not end a value. -/
example : split? " k:\"a\\\"b,c\"x:\"\" " = .ok [("k", ⟨"a\"b", ["c"]⟩), ("x", ⟨"", []⟩)] := by rfl

end Tag

end GoIdl
