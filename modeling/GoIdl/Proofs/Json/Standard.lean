import GoIdl.Proofs.Json.Grammar

/-!
# Standard JSON written

What is written is a text of the standard exactly if every floating-point number in the value is
finite. The digits of a finite number are laid out as the grammar of numbers has them; the words for
the others stand outside of strings, where no standard text has their letters.
-/

namespace GoIdl.Json

open Decimal (Binary64)

/-- A value whose floating-point numbers are finite. -/
inductive Finite : Json → Prop where
  | null : Finite .null
  | bool (value : Bool) : Finite (.bool value)
  | int (n : Int) : Finite (.int n)
  | float (negative : Bool) (mantissa exponent : Nat) : Finite (.float (.finite negative mantissa exponent))
  | str (text : String) : Finite (.str text)
  | arr {items : List Json} (each : ∀ item ∈ items, Finite item) : Finite (.arr items)
  | obj {members : List (String × Json)} (each : ∀ entry ∈ members, Finite entry.2) : Finite (.obj members)

variable {s rest : List Char} {layout : Layout} {level : Nat}

/-! ### Numbers -/

theorem isDigits_toDigits (n : Nat) : IsDigits (Nat.toDigits 10 n) :=
  ⟨Nat.toDigits_ne_nil, fun _ member => Nat.isDigit_of_mem_toDigits (by decide) (by decide) member⟩

theorem isWhole_toDigits (n : Nat) : IsWhole (Nat.toDigits 10 n) := by
  have all := isDigits_toDigits n
  cases digits : Nat.toDigits 10 n with
  | nil => exact absurd digits all.filled
  | cons c more =>
    rw [digits] at all
    by_cases zero : c = '0'
    · subst zero
      rw [toDigits_head digits]
      exact .zero
    · exact .digits zero all

theorem isNumber_writeInt (n : Int) : IsNumber .standard (writeInt n) := by
  have number : ∀ sign : List Char, sign = [] ∨ sign = ['-'] →
      IsNumber .standard (sign ++ Nat.toDigits 10 n.natAbs) := by
    intro sign signed
    have parts := IsNumber.mk (D := .standard) signed (isWhole_toDigits n.natAbs) .none .none nofun
    rwa [List.append_nil, List.append_nil] at parts
  unfold writeInt
  split
  · exact number ['-'] (.inr rfl)
  · exact number [] (.inl rfl)

/-! ### Floating-point numbers -/

section

open Decimal

theorem roundDiv_le (n d : Nat) : n / d ≤ roundDiv n d := by
  unfold roundDiv
  dsimp only
  split <;> omega

theorem onGrid_ne_zero {mantissa exponent digits : Nat} {power : Int} (positive : mantissa ≠ 0)
    (found : onGrid? mantissa exponent power = some digits) : digits ≠ 0 := by
  have reads : ∀ n, (Binary64.nearest false n power == .finite false mantissa exponent) = true → n ≠ 0 := by
    rintro n same rfl
    have zero : Binary64.nearest false 0 power = .finite false 0 0 := by
      simp [Binary64.nearest, Binary64.zero]
    rw [zero, beq_iff_eq] at same
    exact positive (Binary64.finite.inj same).2.1.symm
  unfold onGrid? at found
  dsimp only at found
  split at found
  · rename_i below _
    cases found
    exact Nat.ne_of_gt (Nat.lt_of_lt_of_le (Nat.pos_of_ne_zero (reads _ below)) (roundDiv_le _ _))
  · rename_i below _
    cases found
    exact reads _ below
  · cases found
    exact Nat.succ_ne_zero _
  · cases found

theorem shortestFrom_ne_zero {mantissa exponent : Nat} {power : Int} {steps : Nat} (positive : mantissa ≠ 0) :
    (shortestFrom mantissa exponent power steps).1 ≠ 0 ∨
      shortestFrom mantissa exponent power steps = (0, 0) := by
  induction steps generalizing power with
  | zero => exact .inr rfl
  | succ steps ih =>
    unfold shortestFrom
    split
    · rename_i found
      exact .inl (onGrid_ne_zero positive found)
    · exact ih

theorem dropZeros_leading {digits : List Char} (all : IsDigits digits) (leading : digits.head? ≠ some '0') :
    IsDigits (dropZeros digits) ∧ (dropZeros digits).head? ≠ some '0' := by
  obtain ⟨c, more, rfl⟩ := List.exists_cons_of_ne_nil all.filled
  have other : c ≠ '0' := fun same => leading (congrArg some same)
  obtain ⟨kept, same⟩ : ∃ kept, (c :: more).reverse.dropWhile (· == '0') = kept ++ [c] := by
    rw [List.reverse_cons, List.dropWhile_append]
    split
    · exact ⟨[], by simp [other]⟩
    · exact ⟨_, rfl⟩
  have suffix : kept ++ [c] <:+ (c :: more).reverse := same ▸ List.dropWhile_suffix _
  have whole : dropZeros (c :: more) = c :: kept.reverse := by
    unfold dropZeros
    rw [same]
    split
    · rename_i nothing
      exact absurd nothing (by simp)
    · simp
  rw [whole]
  refine ⟨⟨List.cons_ne_nil _ _, fun d member => all.all d ?_⟩, leading⟩
  refine List.mem_reverse.mp (suffix.subset ?_)
  simpa [or_comm] using member

theorem isDigits_zeros {digits : List Char} (all : IsDigits digits) (count : Nat) :
    IsDigits (List.replicate count '0' ++ digits) ∧ IsDigits (digits ++ List.replicate count '0') := by
  have zeros : ∀ c ∈ List.replicate count '0', c.isDigit = true := fun c member =>
    List.eq_of_mem_replicate member ▸ rfl
  have filled := all.filled
  exact ⟨⟨by simp [filled], List.forall_mem_append.mpr ⟨zeros, all.all⟩⟩,
    ⟨by simp [filled], List.forall_mem_append.mpr ⟨all.all, zeros⟩⟩⟩

theorem exponentText_isExponent (e : Int) : IsExponent (exponentText e) := by
  have all := (isDigits_zeros (isDigits_toDigits e.natAbs) (2 - (Nat.toDigits 10 e.natAbs).length)).1
  unfold exponentText
  dsimp only
  split
  · exact .power (.inl rfl) (.inr (.inr (Eq.refl ['-']))) all
  · exact .power (.inl rfl) (.inr (.inl (Eq.refl ['+']))) all

/-- The parts of a number without its sign. -/
def IsUnsigned (s : List Char) : Prop :=
  ∃ whole fraction exponent, s = whole ++ (fraction ++ exponent) ∧ IsWhole whole ∧ IsFraction fraction ∧
    IsExponent exponent

theorem isWhole_digit {d : Char} (digit : d.isDigit = true) : IsWhole [d] := by
  by_cases zero : d = '0'
  · subst zero
    exact .zero
  · exact .digits zero ⟨List.cons_ne_nil _ _, List.forall_mem_singleton.mpr digit⟩

/-- Digits are laid out as a number, if they do not start with a zero or are laid out as that one digit
before the point. -/
theorem layout_isUnsigned {digits : List Char} {point : Int} (all : IsDigits digits)
    (leading : digits.head? ≠ some '0' ∨ digits = ['0'] ∧ point = 1) :
      IsUnsigned (Decimal.layout digits point) := by
  obtain ⟨d, more, rfl⟩ := List.exists_cons_of_ne_nil all.filled
  have digit : d.isDigit = true := all.all d List.mem_cons_self
  unfold Decimal.layout
  split
  · cases more with
    | nil => exact ⟨[d], [], _, rfl, isWhole_digit digit, .none, exponentText_isExponent _⟩
    | cons e more =>
      refine ⟨[d], '.' :: e :: more, _, rfl, isWhole_digit digit,
        .point ⟨List.cons_ne_nil _ _, fun c member => ?_⟩,
        exponentText_isExponent _⟩
      exact all.all c (List.mem_cons_of_mem _ member)
  · split
    · exact ⟨['0'], '.' :: (List.replicate (-point).toNat '0' ++ d :: more), [], by simp, .zero,
        .point (isDigits_zeros all _).1, .none⟩
    · dsimp only
      split
      · refine ⟨d :: more ++ List.replicate (point.toNat - (d :: more).length) '0', ['.', '0'], [], rfl, ?_,
          .point isDigits_zero, .none⟩
        rcases leading with leading | ⟨same, rfl⟩
        · exact .digits (fun same => leading (congrArg some same)) (isDigits_zeros all _).2
        · rw [same]
          exact .zero
      · rename_i inside long
        have before : 0 < point.toNat := by omega
        obtain ⟨size, positive⟩ := Nat.exists_eq_add_one.mpr before
        have later : IsDigits ((d :: more).drop point.toNat) :=
          ⟨by simpa using long, fun c member => all.all c (List.mem_of_mem_drop member)⟩
        refine ⟨(d :: more).take point.toNat, '.' :: (d :: more).drop point.toNat, [], by simp, ?_,
          .point later, .none⟩
        rcases leading with leading | ⟨same, rfl⟩
        · rw [positive, List.take_succ_cons]
          refine .digits (fun same => leading (congrArg some same)) ⟨List.cons_ne_nil _ _, fun c member => ?_⟩
          refine all.all c (List.mem_of_mem_take (i := size + 1) ?_)
          rwa [List.take_succ_cons]
        · exact absurd (congrArg List.length same).le long

theorem magnitudeText_isUnsigned (mantissa exponent : Nat) :
    IsUnsigned (magnitudeText mantissa exponent) := by
  unfold magnitudeText
  split
  · exact ⟨['0'], ['.', '0'], [], rfl, .zero, .point isDigits_zero, .none⟩
  · rename_i positive
    have found : (shortest mantissa exponent).1 ≠ 0 ∨ shortest mantissa exponent = (0, 0) :=
      shortestFrom_ne_zero positive
    dsimp only
    rcases found with filled | nothing
    · have leading : (Nat.toDigits 10 (shortest mantissa exponent).1).head? ≠ some '0' := by
        intro zero
        obtain ⟨more, digits⟩ := List.head?_eq_some_iff.mp zero
        have value := decimalValue_toDigits (shortest mantissa exponent).1
        rw [digits, toDigits_head digits] at value
        exact filled value.symm
      obtain ⟨all, leading⟩ := dropZeros_leading (isDigits_toDigits _) leading
      exact layout_isUnsigned all (.inl leading)
    · have zero : Nat.toDigits 10 0 = ['0'] := rfl
      have one : ((['0'].length : Nat) + 0 : Int) = 1 := rfl
      rw [nothing, zero, one]
      exact layout_isUnsigned isDigits_zero (.inr ⟨rfl, rfl⟩)

theorem text_finite (negative : Bool) (mantissa exponent : Nat) :
    (Binary64.finite negative mantissa exponent).text =
      (if negative then ['-'] else []) ++ magnitudeText mantissa exponent := rfl

theorem isNumber_text (negative : Bool) (mantissa exponent : Nat) :
    IsNumber .standard (Binary64.finite negative mantissa exponent).text := by
  obtain ⟨whole, fraction, power, same, integer, places, raised⟩ := magnitudeText_isUnsigned mantissa exponent
  have signed : (if negative then ['-'] else []) = [] ∨ (if negative then ['-'] else []) = ['-'] := by
    cases negative
    · exact .inl rfl
    · exact .inr rfl
  rw [text_finite, same]
  exact .mk signed integer places raised fun _ _ => nofun

end

/-! ### Strings -/

theorem writeChar_isChars (c : Char) (more : IsChars s) : IsChars (writeChar c ++ s) := by
  unfold writeChar
  split
  · exact .escaped (by decide) more
  · split
    · exact .escaped (by decide) more
    · split
      · exact .escaped (by decide) more
      · split
        · exact .escaped (by decide) more
        · split
          · exact .escaped (by decide) more
          · split
            · exact .escaped (by decide) more
            · split
              · exact .escaped (by decide) more
              · split
                · rename_i control
                  obtain ⟨a, b, d, e, digits, number⟩ := hexNumber_hex control
                  rw [digits]
                  exact .unit (hexNumber_isSome_iff.mp (Option.isSome_iff_exists.mpr ⟨_, number⟩)) more
                · rename_i quote backslash _ _ _ _ _ printed
                  exact .plain (Nat.le_of_not_lt printed) quote backslash more

theorem isString_writeString (t : String) : IsString (writeString t) := by
  have chars : ∀ cs : List Char, IsChars (cs.flatMap writeChar) := by
    intro cs
    induction cs with
    | nil => exact .nil
    | cons c cs ih =>
      rw [List.flatMap_cons]
      exact writeChar_isChars c ih
  exact .quoted (chars t.toList)

/-! ### Values -/

theorem blanks_lineBreak (blank : layout.Blank) (level : Nat) : Blanks (layout.lineBreak level) :=
  blanks_iff.mpr (lineBreak_blank blank level)

theorem exists_itemBreak (blank : layout.Blank) (level : Nat) :
    ∃ gap, layout.itemBreak level = ',' :: gap ∧ Blanks gap := by
  obtain ⟨gap, same, all⟩ := itemBreak_eq blank level
  exact ⟨gap, same, blanks_iff.mpr all⟩

theorem conforms_writeItems (blank : layout.Blank) {item : Json} {items : List Json}
    {before after : List Char} (leading : Blanks before) (trailing : Blanks after)
    (each : ∀ v ∈ item :: items, Conforms .standard .value (writeAt layout level v)) :
    Conforms .standard .elements
      (before ++ (writeAt layout level item ++ (writeItems layout level items ++ after))) := by
  induction items generalizing item before with
  | nil => exact .lastElement (.element leading (each item List.mem_cons_self) trailing)
  | cons next items ih =>
    obtain ⟨gap, same, spaced⟩ := exists_itemBreak blank level
    have here := Conforms.element leading (each item List.mem_cons_self) .nil
    have later := ih spaced fun v member => each v (List.mem_cons_of_mem _ member)
    have both := Conforms.elements here later
    rw [writeItems, same]
    simpa using both

theorem conforms_writeMembers (blank : layout.Blank) {key : String} {v : Json}
    {members : List (String × Json)} {before after : List Char} (leading : Blanks before)
    (trailing : Blanks after)
    (each : ∀ entry ∈ (key, v) :: members, Conforms .standard .value (writeAt layout level entry.2)) :
    Conforms .standard .members (before ++ (writeString key ++ (':' :: ' ' ::
      (writeAt layout level v ++ (writeMembers layout level members ++ after))))) := by
  have space : Blanks [' '] := List.forall_mem_singleton.mpr (.inl rfl)
  induction members generalizing key v before with
  | nil =>
    have here := Conforms.element space (each _ List.mem_cons_self) trailing
    exact .lastMember (.member leading (isString_writeString key) .nil here)
  | cons next members ih =>
    obtain ⟨name, value⟩ := next
    obtain ⟨gap, same, spaced⟩ := exists_itemBreak blank level
    have here := Conforms.element space (each _ List.mem_cons_self) .nil
    have later := ih spaced fun entry member => each entry (List.mem_cons_of_mem _ member)
    have both := Conforms.members (.member leading (isString_writeString key) .nil here) later
    rw [writeMembers, same]
    simpa using both

theorem Finite.conforms {v : Json} (finite : v.Finite) (blank : layout.Blank) :
    ∀ level, Conforms .standard .value (writeAt layout level v) := by
  induction finite with
  | null =>
    intro level
    rw [writeAt]
    exact .word (by decide)
  | bool value =>
    intro level
    cases value <;> rw [writeAt] <;> exact .word (by decide)
  | int n => exact fun _ => .number (isNumber_writeInt n)
  | float negative mantissa exponent => exact fun _ => .number (isNumber_text negative mantissa exponent)
  | str text => exact fun _ => .string (isString_writeString text)
  | @arr items each ih =>
    intro level
    cases items with
    | nil => exact .emptyArray .nil
    | cons item items =>
      have inside := conforms_writeItems blank (blanks_lineBreak blank (level + 1))
        (blanks_lineBreak blank level) fun v member => ih v member (level + 1)
      rw [writeAt]
      simpa using Conforms.array inside
  | @obj members each ih =>
    intro level
    cases members with
    | nil => exact .emptyObject .nil
    | cons entry members =>
      have inside := conforms_writeMembers blank (blanks_lineBreak blank (level + 1))
        (blanks_lineBreak blank level) fun entry member => ih entry member (level + 1)
      rw [writeAt]
      simpa using Conforms.object inside

/-! ### Outside of strings -/

/-- What stands outside of strings in a text that starts inside of one or outside. -/
def bare : Bool → List Char → List Char
  | _, [] => []
  | false, '"' :: s => bare true s
  | false, c :: s => c :: bare false s
  | true, '"' :: s => bare false s
  | true, '\\' :: _ :: s => bare true s
  | true, _ :: s => bare true s

/-- A piece of text with whole strings. It is `calm` if the letters that only the words for numbers that
are not finite have do not stand outside of them. -/
def Scans (calm : Prop) (s : List Char) : Prop :=
  ∀ rest, ∃ plain, bare false (s ++ rest) = plain ++ bare false rest ∧ ('N' ∉ plain ∧ 'I' ∉ plain ↔ calm)

namespace Scans

variable {calm calmer : Prop} {t : List Char}

theorem append (first : Scans calm s) (second : Scans calmer t) : Scans (calm ∧ calmer) (s ++ t) := by
  intro rest
  obtain ⟨before, begins, here⟩ := first (t ++ rest)
  obtain ⟨after, goesOn, there⟩ := second rest
  refine ⟨before ++ after, by rw [List.append_assoc, begins, goesOn, List.append_assoc], ?_⟩
  rw [← here, ← there]
  simp only [List.mem_append, not_or]
  tauto

theorem iff (scans : Scans calm s) (same : calm ↔ calmer) : Scans calmer s := by
  intro rest
  obtain ⟨plain, whole, here⟩ := scans rest
  exact ⟨plain, whole, here.trans same⟩

theorem join (first : Scans True s) (second : Scans True t) : Scans True (s ++ t) :=
  (first.append second).iff (and_self_iff)

theorem plain (noQuote : '"' ∉ s) : Scans ('N' ∉ s ∧ 'I' ∉ s) s := by
  refine fun rest => ⟨s, ?_, Iff.rfl⟩
  induction s with
  | nil => rfl
  | cons c s ih =>
    obtain ⟨quote, noQuote⟩ := not_or.mp (mt List.mem_cons.mpr noQuote)
    rw [List.cons_append, bare, ih noQuote]
    · rfl
    · exact fun same => quote same.symm

/-- Neither quotes nor those letters. -/
theorem quiet (all : ∀ c ∈ s, c ∉ ['"', 'N', 'I']) : Scans True s :=
  (plain fun quote => all _ quote (by decide)).iff
    (iff_true_intro ⟨fun n => all _ n (by decide), fun i => all _ i (by decide)⟩)

theorem still (all : (s.all fun c => decide (c ∉ ['"', 'N', 'I'])) = true) : Scans True s :=
  quiet (List.all_iff_forall_prop.mp all)

theorem unique (scans : Scans calm s) (other : Scans calmer s) : calm ↔ calmer := by
  obtain ⟨plain, whole, here⟩ := scans []
  obtain ⟨plain', whole', there⟩ := other []
  have same := whole.symm.trans whole'
  rw [List.append_left_inj] at same
  subst same
  exact here.symm.trans there

end Scans

theorem bare_plain {c : Char} (quote : c ≠ '"') (backslash : c ≠ '\\') :
    bare true (c :: s) = bare true s := by
  rw [bare]
  · exact quote
  · exact fun _ _ same => absurd same backslash

theorem bare_chars {body : List Char} (chars : IsChars body) :
    bare true (body ++ '"' :: rest) = bare false rest := by
  induction chars with
  | nil => rfl
  | plain _ quote backslash _ ih => rw [List.cons_append, bare_plain quote backslash, ih]
  | escaped _ _ ih => exact ih
  | @unit a b c d s digits _ ih =>
    have plain : ∀ x ∈ [a, b, c, d], x ≠ '"' ∧ x ≠ '\\' := by
      intro x member
      constructor <;> rintro rfl <;> exact absurd (digits _ member) (by unfold IsHex; decide)
    simp only [List.forall_mem_cons] at plain
    obtain ⟨first, second, third, fourth, -⟩ := plain
    change bare true (a :: b :: c :: d :: (s ++ '"' :: rest)) = _
    rw [bare_plain first.1 first.2, bare_plain second.1 second.2, bare_plain third.1 third.2,
      bare_plain fourth.1 fourth.2, ih]

theorem IsString.scans {text : List Char} (string : IsString text) : Scans True text := by
  cases string with
  | quoted chars => exact fun rest => ⟨[], by simp [bare, bare_chars chars], by simp⟩

theorem Blanks.scans (blank : Blanks s) : Scans True s := by
  refine .quiet fun c member => ?_
  rcases blank c member with rfl | rfl | rfl | rfl <;> decide

theorem isDigit_quiet {c : Char} (digit : c.isDigit = true) : c ∉ ['"', 'N', 'I'] := by
  have all : ∀ c ∈ ['"', 'N', 'I'], c.isDigit = false := List.all_iff_forall_prop.mp (by decide)
  intro member
  rw [all c member] at digit
  cases digit

theorem IsDigits.scans (all : IsDigits s) : Scans True s :=
  .quiet fun c member => isDigit_quiet (all.all c member)

theorem IsNumber.scans {D : Dialect} (number : IsNumber D s) : Scans True s := by
  cases number with
  | @mk sign whole fraction exponent signed integer places power _ =>
    have sign : Scans True sign := by
      rcases signed with rfl | rfl <;> exact .still (by decide)
    have whole : Scans True whole := .quiet fun c member => isDigit_quiet (integer.all c member)
    have fraction : Scans True fraction := by
      cases places with
      | none => exact .still rfl
      | point all => exact (Scans.still (s := ['.']) (by decide)).join all.scans
    have exponent : Scans True exponent := by
      cases power with
      | none => exact .still rfl
      | @power letter sign digits either signed all =>
        have letter : Scans True [letter] := by
          rcases either with rfl | rfl <;> exact .still (by decide)
        have sign : Scans True sign := by
          rcases signed with rfl | rfl | rfl <;> exact .still (by decide)
        exact letter.join (sign.join all.scans)
    exact sign.join (whole.join (fraction.join exponent))

/-- No standard text has those letters outside of strings. -/
theorem Conforms.scans {part : Part} (conforms : Conforms .standard part s) : Scans True s := by
  have mark : ∀ c ∈ ['[', ']', '{', '}', ',', ':'], Scans True [c] := by
    have all : ∀ c ∈ ['[', ']', '{', '}', ',', ':'], c ∉ ['"', 'N', 'I'] :=
      List.all_iff_forall_prop.mp (by decide)
    exact fun c member => .quiet (List.forall_mem_singleton.mpr (all c member))
  induction conforms with
  | word known =>
    simp only [Dialect.standard, List.mem_cons, List.not_mem_nil, or_false] at known
    rcases known with rfl | rfl | rfl <;> exact .still (by decide)
  | number number => exact number.scans
  | string string => exact string.scans
  | emptyArray blank => exact (mark '[' (by decide)).join (blank.scans.join (mark ']' (by decide)))
  | array _ ih => exact (mark '[' (by decide)).join (ih.join (mark ']' (by decide)))
  | emptyObject blank => exact (mark '{' (by decide)).join (blank.scans.join (mark '}' (by decide)))
  | object _ ih => exact (mark '{' (by decide)).join (ih.join (mark '}' (by decide)))
  | element leading _ trailing ih => exact leading.scans.join (ih.join trailing.scans)
  | lastElement _ ih => exact ih
  | elements _ _ ih others => exact ih.join ((mark ',' (by decide)).join others)
  | member leading named blank _ ih =>
    exact leading.scans.join (named.scans.join (blank.scans.join ((mark ':' (by decide)).join ih)))
  | lastMember _ ih => exact ih
  | members _ _ ih others => exact ih.join ((mark ',' (by decide)).join others)

/-! ### What is written -/

theorem finite_arr {items : List Json} : (Json.arr items).Finite ↔ ∀ item ∈ items, item.Finite :=
  ⟨fun | .arr each => each, .arr⟩

theorem finite_obj {members : List (String × Json)} :
    (Json.obj members).Finite ↔ ∀ entry ∈ members, entry.2.Finite :=
  ⟨fun | .obj each => each, .obj⟩

theorem scans_text (x : Binary64) : Scans (Json.float x).Finite x.text := by
  have wild : ∀ {x : Binary64}, (∀ negative mantissa exponent, x ≠ .finite negative mantissa exponent) →
      ¬ (Json.float x).Finite := fun other finite => by
    cases finite
    exact other _ _ _ rfl
  match x with
  | .nan => exact (Scans.plain (by decide)).iff (iff_of_false (by decide) (wild nofun))
  | .infinity false => exact (Scans.plain (by decide)).iff (iff_of_false (by decide) (wild nofun))
  | .infinity true => exact (Scans.plain (by decide)).iff (iff_of_false (by decide) (wild nofun))
  | .finite negative mantissa exponent =>
    exact (isNumber_text negative mantissa exponent).scans.iff
      (iff_of_true trivial (.float negative mantissa exponent))

theorem scans_break (blank : layout.Blank) (level : Nat) :
    Scans True (layout.lineBreak level) ∧ Scans True (layout.itemBreak level) := by
  obtain ⟨gap, same, spaced⟩ := exists_itemBreak blank level
  refine ⟨(blanks_lineBreak blank level).scans, ?_⟩
  rw [same]
  exact (Scans.still (s := [',']) (by decide)).join spaced.scans

mutual

theorem scans_writeAt (blank : layout.Blank) (level : Nat) :
    (v : Json) → Scans v.Finite (writeAt layout level v)
  | .null => by
    rw [writeAt]
    exact (Scans.still (by decide)).iff (iff_of_true trivial .null)
  | .bool value => by
    cases value <;> rw [writeAt] <;> exact (Scans.still (by decide)).iff (iff_of_true trivial (.bool _))
  | .int n => by
    rw [writeAt]
    exact (isNumber_writeInt n).scans.iff (iff_of_true trivial (.int n))
  | .float x => by
    rw [writeAt]
    exact scans_text x
  | .str t => by
    rw [writeAt]
    exact (isString_writeString t).scans.iff (iff_of_true trivial (.str t))
  | .arr [] => by
    rw [writeAt]
    exact (Scans.still (by decide)).iff (iff_of_true trivial (.arr nofun))
  | .arr (item :: items) => by
    have opened := (Scans.still (s := ['[']) (by decide)).join (scans_break blank (level + 1)).1
    have closed := (scans_break blank level).1.join (Scans.still (s := [']']) (by decide))
    have inside := (scans_writeAt blank (level + 1) item).append (scans_writeItems blank (level + 1) items)
    rw [finite_arr, List.forall_mem_cons, writeAt]
    simpa using opened.append (inside.append closed)
  | .obj [] => by
    rw [writeAt]
    exact (Scans.still (by decide)).iff (iff_of_true trivial (.obj nofun))
  | .obj ((key, value) :: members) => by
    have opened := (Scans.still (s := ['{']) (by decide)).join (scans_break blank (level + 1)).1
    have named := (isString_writeString key).scans.join (Scans.still (s := [':', ' ']) (by decide))
    have closed := (scans_break blank level).1.join (Scans.still (s := ['}']) (by decide))
    have inside := (scans_writeAt blank (level + 1) value).append
      (scans_writeMembers blank (level + 1) members)
    rw [finite_obj, List.forall_mem_cons, writeAt]
    simpa using (opened.join named).append (inside.append closed)

theorem scans_writeItems (blank : layout.Blank) (level : Nat) : (items : List Json) →
    Scans (∀ item ∈ items, item.Finite) (writeItems layout level items)
  | [] => by
    rw [writeItems]
    exact (Scans.still rfl).iff (by simp)
  | item :: items => by
    have here := (scans_break blank level).2.append (scans_writeAt blank level item)
    rw [List.forall_mem_cons, writeItems]
    simpa using here.append (scans_writeItems blank level items)

theorem scans_writeMembers (blank : layout.Blank) (level : Nat) : (members : List (String × Json)) →
    Scans (∀ entry ∈ members, entry.2.Finite) (writeMembers layout level members)
  | [] => by
    rw [writeMembers]
    exact (Scans.still rfl).iff (by simp)
  | (key, value) :: members => by
    have named := (isString_writeString key).scans.join (Scans.still (s := [':', ' ']) (by decide))
    have here := (scans_break blank level).2.append (named.append (scans_writeAt blank level value))
    rw [List.forall_mem_cons, writeMembers]
    simpa using here.append (scans_writeMembers blank level members)

end

/-- A value is written as standard JSON exactly if its numbers are finite. -/
theorem isText_write_iff {v : Json} (blank : layout.Blank) :
    IsText .standard (write layout v).toList ↔ v.Finite := by
  rw [write, String.toList_ofList]
  constructor
  · intro isText
    exact ((scans_writeAt blank 0 v).unique isText.scans).mpr trivial
  · intro finite
    have whole := Conforms.element .nil (finite.conforms blank 0) .nil
    rwa [List.nil_append, List.append_nil] at whole

end GoIdl.Json
