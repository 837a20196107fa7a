import GoIdl.Proofs.Json.ReadBack
import GoIdl.Proofs.Text.Bounds
import Mathlib.Data.Bool.AllAny

/-!
# The grammar of JSON

The grammar of RFC 8259, stated without the reader, and the reader against it. What is read is this
grammar with three more words for values and with a bound on the digits of an integer; beyond that
bound reading fails in a way of its own.
-/

namespace GoIdl.Json

/-- The words that stand for values, and how many digits an integer may have. -/
structure Dialect where
  words : List (List Char)
  limit : Option Nat

namespace Dialect

def standard : Dialect where
  words := ["null".toList, "true".toList, "false".toList]
  limit := none

/-- With words for numbers that are not finite. -/
def extended : Dialect where
  words := standard.words ++ ["NaN".toList, "Infinity".toList, "-Infinity".toList]
  limit := none

/-- What the reader takes. -/
def accepted : Dialect where
  words := extended.words
  limit := some digitLimit

end Dialect

/-! ### The grammar -/

/-- Spaces, tabs, line feeds and carriage returns. -/
def Blanks (s : List Char) : Prop := ∀ c ∈ s, c = ' ' ∨ c = '\t' ∨ c = '\n' ∨ c = '\r'

structure IsDigits (s : List Char) : Prop where
  filled : s ≠ []
  all : ∀ c ∈ s, c.isDigit = true

/-- A zero alone, or digits that start with another. -/
inductive IsWhole : List Char → Prop where
  | zero : IsWhole ['0']
  | digits {c : Char} {more : List Char} (other : c ≠ '0') (all : IsDigits (c :: more)) : IsWhole (c :: more)

inductive IsFraction : List Char → Prop where
  | none : IsFraction []
  | point {digits : List Char} (all : IsDigits digits) : IsFraction ('.' :: digits)

inductive IsExponent : List Char → Prop where
  | none : IsExponent []
  | power {letter : Char} {sign digits : List Char} (either : letter = 'e' ∨ letter = 'E')
      (signed : sign = [] ∨ sign = ['+'] ∨ sign = ['-']) (all : IsDigits digits) :
      IsExponent (letter :: (sign ++ digits))

/-- A number of a dialect. The limit is one for integers: numbers without fraction and exponent. -/
inductive IsNumber (D : Dialect) : List Char → Prop where
  | mk {sign whole fraction exponent : List Char} (signed : sign = [] ∨ sign = ['-'])
      (integer : IsWhole whole) (places : IsFraction fraction) (power : IsExponent exponent)
      (short : fraction = [] → exponent = [] → ∀ most ∈ D.limit, whole.length ≤ most) :
      IsNumber D (sign ++ (whole ++ (fraction ++ exponent)))

def IsHex (c : Char) : Prop := c.isDigit = true ∨ ('a' ≤ c ∧ c ≤ 'f') ∨ ('A' ≤ c ∧ c ≤ 'F')

/-- What may stand between the quotes of a string. -/
inductive IsChars : List Char → Prop where
  | nil : IsChars []
  | plain {c : Char} {s : List Char} (printed : 0x20 ≤ c.toNat) (quote : c ≠ '"') (backslash : c ≠ '\\')
      (more : IsChars s) : IsChars (c :: s)
  | escaped {c : Char} {s : List Char} (simple : c ∈ ['"', '\\', '/', 'b', 'f', 'n', 'r', 't'])
      (more : IsChars s) : IsChars ('\\' :: c :: s)
  | unit {a b c d : Char} {s : List Char} (digits : ∀ x ∈ [a, b, c, d], IsHex x) (more : IsChars s) :
      IsChars ('\\' :: 'u' :: a :: b :: c :: d :: s)

inductive IsString : List Char → Prop where
  | quoted {body : List Char} (chars : IsChars body) : IsString ('"' :: (body ++ ['"']))

/-- The parts of a text. Elements stand between the brackets of an array, members between those of an
object. -/
inductive Part where
  | value
  | element
  | elements
  | member
  | members

/-- The grammar of the parts. -/
inductive Conforms (D : Dialect) : Part → List Char → Prop where
  | word {w : List Char} (known : w ∈ D.words) : Conforms D .value w
  | number {s : List Char} (number : IsNumber D s) : Conforms D .value s
  | string {s : List Char} (string : IsString s) : Conforms D .value s
  | emptyArray {gap : List Char} (blank : Blanks gap) : Conforms D .value ('[' :: (gap ++ [']']))
  | array {s : List Char} (inside : Conforms D .elements s) : Conforms D .value ('[' :: (s ++ [']']))
  | emptyObject {gap : List Char} (blank : Blanks gap) : Conforms D .value ('{' :: (gap ++ ['}']))
  | object {s : List Char} (inside : Conforms D .members s) : Conforms D .value ('{' :: (s ++ ['}']))
  | element {before s after : List Char} (leading : Blanks before) (value : Conforms D .value s)
      (trailing : Blanks after) : Conforms D .element (before ++ (s ++ after))
  | lastElement {s : List Char} (element : Conforms D .element s) : Conforms D .elements s
  | elements {s more : List Char} (element : Conforms D .element s) (others : Conforms D .elements more) :
      Conforms D .elements (s ++ ',' :: more)
  | member {before name gap s : List Char} (leading : Blanks before) (named : IsString name)
      (blank : Blanks gap) (element : Conforms D .element s) :
      Conforms D .member (before ++ (name ++ (gap ++ ':' :: s)))
  | lastMember {s : List Char} (member : Conforms D .member s) : Conforms D .members s
  | members {s more : List Char} (member : Conforms D .member s) (others : Conforms D .members more) :
      Conforms D .members (s ++ ',' :: more)

/-- A text of a dialect: one value with blanks around it. -/
def IsText (D : Dialect) (s : List Char) : Prop := Conforms D .element s

variable {D E : Dialect} {s rest text : List Char} {fuel : Nat}

/-! ### Dialects -/

/-- Everything that the one dialect allows is allowed by the other. -/
structure Dialect.Within (D E : Dialect) : Prop where
  words : D.words ⊆ E.words
  limit : ∀ most ∈ E.limit, ∃ fewer ∈ D.limit, fewer ≤ most

theorem Dialect.standard_within : standard.Within extended :=
  ⟨List.subset_append_left _ _, nofun⟩

theorem IsNumber.within (inside : D.Within E) (number : IsNumber D s) : IsNumber E s := by
  cases number with
  | mk signed integer places power short =>
    refine .mk signed integer places power fun noFraction noExponent most limit => ?_
    obtain ⟨fewer, known, less⟩ := inside.limit most limit
    exact Nat.le_trans (short noFraction noExponent fewer known) less

theorem Conforms.within {part : Part} (inside : D.Within E) (conforms : Conforms D part s) :
    Conforms E part s := by
  induction conforms with
  | word known => exact .word (inside.words known)
  | number number => exact .number (number.within inside)
  | string string => exact .string string
  | emptyArray blank => exact .emptyArray blank
  | array _ ih => exact .array ih
  | emptyObject blank => exact .emptyObject blank
  | object _ ih => exact .object ih
  | element leading _ trailing ih => exact .element leading ih trailing
  | lastElement _ ih => exact .lastElement ih
  | elements _ _ ih others => exact .elements ih others
  | member leading named blank _ ih => exact .member leading named blank ih
  | lastMember _ ih => exact .lastMember ih
  | members _ _ ih others => exact .members ih others

/-! ### Blanks -/

theorem isBlank_iff {c : Char} : isBlank c = true ↔ c = ' ' ∨ c = '\t' ∨ c = '\n' ∨ c = '\r' := by
  simp [isBlank, or_assoc]

theorem Blanks.nil : Blanks [] := nofun

theorem blanks_iff : Blanks s ↔ ∀ c ∈ s, isBlank c = true := by
  simp only [Blanks, isBlank_iff]

theorem Blanks.skip (blanks : Blanks s) (rest : List Char) : skipBlanks (s ++ rest) = skipBlanks rest :=
  skipBlanks_append (blanks_iff.mp blanks) rest

/-- A text is its blanks and what they are skipped for. -/
theorem exists_blanks (s : List Char) : ∃ gap, Blanks gap ∧ s = gap ++ skipBlanks s :=
  ⟨s.takeWhile isBlank, blanks_iff.mpr fun _ member => List.mem_takeWhile_imp member,
    List.takeWhile_append_dropWhile.symm⟩

theorem skipBlanks_eq_nil_iff : skipBlanks s = [] ↔ Blanks s := by
  rw [skipBlanks, List.dropWhile_eq_nil_iff, blanks_iff]

/-! ### Outcomes -/

/-- So many digits stand in a row in the text. -/
def HasRun (s : List Char) (count : Nat) : Prop :=
  ∃ digits, digits <:+: s ∧ (∀ c ∈ digits, c.isDigit = true) ∧ digits.length = count

theorem HasRun.behind {count : Nat} (run : HasRun rest count) (before : List Char) :
    HasRun (before ++ rest) count := by
  obtain ⟨digits, inside, all, length⟩ := run
  exact ⟨digits, inside.trans (List.suffix_append before rest).isInfix, all, length⟩

/-- What an outcome of reading stands for: a text of some shape as far as what closes it or, if it is
refused for its digits, so many of them in a row. -/
inductive Accounts {α : Type} (shape : List Char → Prop) (close s : List Char) :
    Except Fault (α × List Char) → Prop where
  | read {text rest : List Char} (a : α) (shaped : shape text) (same : s = text ++ (close ++ rest)) :
      Accounts shape close s (.ok (a, rest))
  | refused {fault : Fault} (beyond : ∀ count, fault = .tooManyDigits count → HasRun s count) :
      Accounts shape close s (.error fault)

namespace Accounts

variable {α β : Type} {shape shape' : List Char → Prop} {close close' : List Char}
  {outcome : Except Fault (α × List Char)}

/-- What is read behind a beginning is read together with it. -/
theorem behind (accounts : Accounts shape close s outcome) (before : List Char)
    (joins : ∀ text rest, shape text → s = text ++ (close ++ rest) →
      ∃ whole, shape' whole ∧ before ++ s = whole ++ (close' ++ rest)) :
    Accounts shape' close' (before ++ s) outcome := by
  cases accounts with
  | read a shaped same =>
    obtain ⟨whole, shaped', same'⟩ := joins _ _ shaped same
    exact .read a shaped' same'
  | refused beyond => exact .refused fun count same => (beyond count same).behind before

theorem bind (accounts : Accounts shape close s outcome) (before : List Char)
    {f : α × List Char → Except Fault (β × List Char)}
    (later : ∀ a text rest, shape text → s = text ++ (close ++ rest) →
      Accounts shape' close' (before ++ s) (f (a, rest))) :
    Accounts shape' close' (before ++ s) (outcome >>= f) := by
  cases accounts with
  | read a shaped same => exact later a _ _ shaped same
  | refused beyond => exact .refused fun count same => (beyond count same).behind before

/-- Blanks in front do not count if they do not count for the shape. -/
theorem indented (accounts : Accounts shape close (skipBlanks s) outcome)
    (indent : ∀ {gap text : List Char}, Blanks gap → shape text → shape (gap ++ text)) :
    Accounts shape close s outcome := by
  obtain ⟨gap, blank, whole⟩ := exists_blanks s
  rw [whole]
  exact accounts.behind gap fun text rest shaped same => ⟨_, indent blank shaped, by simp [same]⟩

end Accounts

/-! ### Numbers -/

theorem spanDigits_append {digits : List Char} (all : ∀ c ∈ digits, c.isDigit = true)
    (ends : ∀ c ∈ rest.head?, c.isDigit = false) : spanDigits (digits ++ rest) = (digits, rest) :=
  span_of_append all ends

theorem isDigits_of_spanDigits {digits : List Char} (spanned : spanDigits s = (digits, rest))
    (filled : digits ≠ []) : IsDigits digits ∧ s = digits ++ rest := by
  obtain ⟨whole, all, -⟩ := span_eq_iff.mp spanned
  exact ⟨⟨filled, all⟩, whole⟩

theorem readWhole_sound {digits : List Char} (read : readWhole s = some (digits, rest)) :
    IsWhole digits ∧ s = digits ++ rest := by
  unfold readWhole at read
  split at read
  · cases read
  · cases read
    exact ⟨.zero, rfl⟩
  · rename_i noZero
    split at read
    · cases read
    · rename_i filled spanned
      cases read
      obtain ⟨all, whole⟩ := isDigits_of_spanDigits spanned (by simpa using filled)
      refine ⟨?_, whole⟩
      cases digits with
      | nil => exact absurd rfl all.filled
      | cons c more =>
        refine .digits ?_ all
        rintro rfl
        exact noZero _ whole

theorem readFraction_sound {digits : List Char} (read : readFraction s = some (digits, rest)) :
    IsDigits digits ∧ s = '.' :: digits ++ rest := by
  unfold readFraction at read
  split at read
  · split at read
    · cases read
    · rename_i filled spanned
      cases read
      obtain ⟨all, rfl⟩ := isDigits_of_spanDigits spanned (by simpa using filled)
      exact ⟨all, rfl⟩
  · cases read

theorem readExponent_sound {power : Int} (read : readExponent s = some (power, rest)) :
    ∃ exponent, IsExponent exponent ∧ exponent ≠ [] ∧ s = exponent ++ rest := by
  unfold readExponent at read
  split at read
  · rename_i letter after
    split at read
    · rename_i letter
      split at read
      rename_i negative unsigned signed
      obtain ⟨sign, known, rfl⟩ :
          ∃ sign, (sign = [] ∨ sign = ['+'] ∨ sign = ['-']) ∧ after = sign ++ unsigned := by
        split at signed <;> cases signed
        · exact ⟨['+'], .inr (.inl rfl), rfl⟩
        · exact ⟨['-'], .inr (.inr rfl), rfl⟩
        · exact ⟨[], .inl rfl, rfl⟩
      split at read
      · cases read
      · rename_i filled spanned
        cases read
        obtain ⟨all, rfl⟩ := isDigits_of_spanDigits spanned (by simpa using filled)
        exact ⟨_, .power letter known all, List.cons_ne_nil _ _, by simp⟩
    · cases read
  · cases read

theorem exists_fraction (s : List Char) : ∃ fraction after, IsFraction fraction ∧ s = fraction ++ after ∧
    ((readFraction s).getD ([], s)).2 = after ∧ (fraction = [] → (readFraction s).isNone) := by
  cases found : readFraction s with
  | none => exact ⟨[], s, .none, rfl, rfl, fun _ => rfl⟩
  | some pair =>
    obtain ⟨all, rfl⟩ := readFraction_sound found
    exact ⟨_, _, .point all, rfl, rfl, nofun⟩

theorem exists_exponent (s : List Char) : ∃ exponent after, IsExponent exponent ∧ s = exponent ++ after ∧
    ((readExponent s).getD (0, s)).2 = after ∧ (exponent = [] → (readExponent s).isNone) := by
  cases found : readExponent s with
  | none => exact ⟨[], s, .none, rfl, rfl, fun _ => rfl⟩
  | some pair =>
    obtain ⟨exponent, power, filled, rfl⟩ := readExponent_sound found
    exact ⟨exponent, _, power, rfl, rfl, fun none => absurd none filled⟩

theorem isDigits_zero : IsDigits ['0'] := ⟨List.cons_ne_nil _ _, List.forall_mem_singleton.mpr rfl⟩

theorem IsWhole.all {whole : List Char} (integer : IsWhole whole) : ∀ c ∈ whole, c.isDigit = true := by
  cases integer with
  | zero => exact isDigits_zero.all
  | digits _ all => exact all.all

theorem readNumber_accounts (s : List Char) : Accounts (IsNumber .accepted) [] s (readNumber s) := by
  unfold readNumber
  split
  rename_i negative unsigned signed
  obtain ⟨sign, known, rfl⟩ : ∃ sign, (sign = [] ∨ sign = ['-']) ∧ s = sign ++ unsigned := by
    split at signed <;> cases signed
    · exact ⟨['-'], .inr rfl, rfl⟩
    · exact ⟨[], .inl rfl, rfl⟩
  dsimp only
  split
  · exact .refused (by simp)
  · rename_i whole afterWhole found
    obtain ⟨integer, rfl⟩ := readWhole_sound found
    obtain ⟨fraction, afterFraction, places, rfl, fractionLeft, bare⟩ := exists_fraction afterWhole
    rw [fractionLeft]
    obtain ⟨exponent, afterExponent, power, rfl, exponentLeft, plain⟩ := exists_exponent afterFraction
    rw [exponentLeft]
    split
    · split
      · refine .refused fun count same => ?_
        cases same
        exact .behind ⟨whole, (List.prefix_append whole _).isInfix, integer.all, rfl⟩ sign
      · rename_i short
        exact .read _ (.mk known integer places power fun _ _ most limit => by
          cases limit
          exact Nat.le_of_not_lt short) (by simp)
    · rename_i written
      exact .read _ (.mk known integer places power fun noFraction noExponent =>
        absurd ⟨bare noFraction, plain noExponent⟩ written) (by simp)

/-- No number goes on behind these parts. -/
theorem Stops.noDigit (stops : Stops rest) : ∀ c ∈ rest.head?, c.isDigit = false :=
  fun c first => (stops c first).1

theorem IsExponent.noDigit {exponent : List Char} (power : IsExponent exponent) (stops : Stops rest) :
    ∀ c ∈ (exponent ++ rest).head?, c.isDigit = false ∧ c ≠ '.' := by
  intro c first
  cases power with
  | none => exact ⟨(stops c first).1, (stops c first).2.1⟩
  | power either =>
    cases first
    rcases either with rfl | rfl <;> decide

theorem IsFraction.noDigit {fraction : List Char} (places : IsFraction fraction)
    (ends : ∀ c ∈ rest.head?, c.isDigit = false) : ∀ c ∈ (fraction ++ rest).head?, c.isDigit = false := by
  intro c first
  cases places with
  | none => exact ends c first
  | point =>
    cases first
    rfl

theorem readWhole_complete {whole : List Char} (integer : IsWhole whole)
    (ends : ∀ c ∈ rest.head?, c.isDigit = false) : readWhole (whole ++ rest) = some (whole, rest) := by
  cases integer with
  | zero => rfl
  | @digits c more other all =>
    have spanned := spanDigits_append all.all ends
    rw [List.cons_append] at spanned ⊢
    rw [readWhole, spanned]
    · exact List.cons_ne_nil _ _
    · intro _ same
      exact other (List.cons.inj same).1

theorem readFraction_complete {fraction : List Char} (places : IsFraction fraction)
    (ends : ∀ c ∈ rest.head?, c.isDigit = false ∧ c ≠ '.') :
    ∃ digits, (readFraction (fraction ++ rest)).getD ([], fraction ++ rest) = (digits, rest) ∧
      ((readFraction (fraction ++ rest)).isNone → fraction = []) := by
  cases places with
  | none =>
    have absent : readFraction rest = none := by
      cases rest with
      | nil => rfl
      | cons c rest =>
        rw [readFraction]
        intro _ same
        exact (ends c rfl).2 (List.cons.inj same).1
    rw [List.nil_append, absent]
    exact ⟨[], rfl, fun _ => rfl⟩
  | @point digits all =>
    have found : readFraction ('.' :: digits ++ rest) = some (digits, rest) := by
      obtain ⟨d, others, rfl⟩ := List.exists_cons_of_ne_nil all.filled
      rw [List.cons_append, readFraction, spanDigits_append all.all fun c first => (ends c first).1]
    rw [found]
    exact ⟨digits, rfl, fun absent => absurd absent (by simp)⟩

theorem readExponent_complete {exponent : List Char} (power : IsExponent exponent) (stops : Stops rest) :
    ∃ n, (readExponent (exponent ++ rest)).getD (0, exponent ++ rest) = (n, rest) ∧
      ((readExponent (exponent ++ rest)).isNone → exponent = []) := by
  cases power with
  | none =>
    rw [List.nil_append, readExponent_stops stops]
    exact ⟨0, rfl, fun _ => rfl⟩
  | @power letter sign digits either signed all =>
    obtain ⟨n, found⟩ : ∃ n, readExponent (letter :: (sign ++ digits) ++ rest) = some (n, rest) := by
      have spanned := spanDigits_append all.all stops.noDigit
      obtain ⟨d, others, rfl⟩ := List.exists_cons_of_ne_nil all.filled
      have digit : d.isDigit = true := all.all d List.mem_cons_self
      have noPlus : d ≠ '+' := isDigit_ne digit (by decide)
      have noMinus : d ≠ '-' := isDigit_ne digit (by decide)
      rw [List.cons_append] at spanned
      rcases signed with rfl | rfl | rfl <;> simp [readExponent, either, noPlus, noMinus, spanned]
    rw [found]
    exact ⟨n, rfl, fun absent => absurd absent (by simp)⟩

/-- What the dialect allows has been read and the rest is left as told, or it has been refused for an
integer that the dialect does not refuse. -/
inductive Taken {α : Type} (D : Dialect) (left : List Char → Prop) : Except Fault (α × List Char) → Prop where
  | read (a : α) {rest : List Char} (as : left rest) : Taken D left (.ok (a, rest))
  | beyond (count : Nat) (other : D.limit ≠ some digitLimit) : Taken D left (.error (.tooManyDigits count))

theorem Taken.bind {α β : Type} {left after : List Char → Prop} {outcome : Except Fault (α × List Char)}
    {f : α × List Char → Except Fault (β × List Char)} (first : Taken D left outcome)
    (later : ∀ a rest, left rest → Taken D after (f (a, rest))) : Taken D after (outcome >>= f) := by
  cases first with
  | read a as => exact later a _ as
  | beyond count other => exact .beyond count other

theorem IsWhole.exists_digit {whole : List Char} (integer : IsWhole whole) :
    ∃ c more, whole = c :: more ∧ c.isDigit = true := by
  cases integer with
  | zero => exact ⟨_, _, rfl, rfl⟩
  | digits _ all => exact ⟨_, _, rfl, all.all _ List.mem_cons_self⟩

theorem Taken.mono {α : Type} {left after : List Char → Prop} {outcome : Except Fault (α × List Char)}
    (taken : Taken D left outcome) (weaker : ∀ rest, left rest → after rest) : Taken D after outcome := by
  cases taken with
  | read a as => exact .read a (weaker _ as)
  | beyond count other => exact .beyond count other

theorem readNumber_complete (number : IsNumber D text) (stops : Stops rest) :
    Taken D (· = rest) (readNumber (text ++ rest)) := by
  cases number with
  | @mk sign whole fraction exponent signed integer places power short =>
    have noPoint := power.noDigit stops
    obtain ⟨digits, fractionRead, bare⟩ := readFraction_complete places noPoint
    obtain ⟨n, exponentRead, plain⟩ := readExponent_complete power stops
    have wholeRead := readWhole_complete integer (places.noDigit fun c first => (noPoint c first).1)
    simp only [List.append_assoc]
    unfold readNumber
    split
    rename_i negative unsigned matched
    have same : unsigned = whole ++ (fraction ++ (exponent ++ rest)) := by
      rcases signed with rfl | rfl
      · split at matched
        · rename_i starts
          obtain ⟨c, more, rfl, digit⟩ := integer.exists_digit
          exact absurd (List.cons.inj starts).1 (isDigit_ne digit (by decide))
        · cases matched
          rfl
      · cases matched
        rfl
    rw [same, wholeRead]
    dsimp only
    rw [fractionRead]
    dsimp only
    rw [exponentRead]
    dsimp only
    split
    · rename_i missing
      split
      · rename_i many
        refine .beyond _ fun limit => ?_
        exact absurd (short (bare missing.1) (plain missing.2) digitLimit limit) (Nat.not_le.mpr many)
      · exact .read _ rfl
    · exact .read _ rfl

/-! ### Strings -/

theorem hexValue_isSome_iff {c : Char} : (Text.hexValue c).isSome ↔ IsHex c := by
  unfold Text.hexValue IsHex
  split
  · simp [*]
  · split
    · simp [*]
    · split <;> simp [*]

theorem hexNumber_isSome_iff : (Text.hexNumber s).isSome ↔ ∀ c ∈ s, IsHex c := by
  suffices general : ∀ n : Nat,
      (s.foldlM (fun n c => (Text.hexValue c).map (n * 16 + ·)) n).isSome ↔ ∀ c ∈ s, IsHex c from general 0
  induction s with
  | nil => simp
  | cons c rest ih =>
    intro n
    rw [List.foldlM_cons, List.forall_mem_cons, ← hexValue_isSome_iff]
    cases Text.hexValue c with
    | none => simp
    | some value => simpa using ih _

theorem readUnit_sound {n : Nat} (read : readUnit s = some (n, rest)) :
    ∃ a b c d, s = a :: b :: c :: d :: rest ∧ ∀ x ∈ [a, b, c, d], IsHex x := by
  unfold readUnit at read
  split at read
  · split at read
    · cases read
    · obtain ⟨value, number, same⟩ := Option.map_eq_some_iff.mp read
      cases same
      exact ⟨_, _, _, _, rfl, hexNumber_isSome_iff.mp (Option.isSome_iff_exists.mpr ⟨n, number⟩)⟩
  · cases read

theorem readUnit_complete {a b c d : Char} (digits : ∀ x ∈ [a, b, c, d], IsHex x) {more : List Char}
    (filled : more ≠ []) : ∃ n, readUnit (a :: b :: c :: d :: more) = some (n, more) := by
  obtain ⟨n, number⟩ := Option.isSome_iff_exists.mp (hexNumber_isSome_iff.mpr digits)
  exact ⟨n, by simp [readUnit, number, filled]⟩

theorem readUnicodeEscape_sound {c : Char} (read : readUnicodeEscape s = some (c, rest)) :
    ∃ escapes, s = escapes ++ rest ∧ ∀ body, IsChars body → IsChars ('\\' :: 'u' :: (escapes ++ body)) := by
  obtain ⟨⟨first, after⟩, unit, chosen⟩ := Option.bind_eq_some_iff.mp read
  obtain ⟨a, b, c, d, rfl, digits⟩ := readUnit_sound unit
  have single : ∃ escapes, a :: b :: c :: d :: after = escapes ++ after ∧
      ∀ body, IsChars body → IsChars ('\\' :: 'u' :: (escapes ++ body)) :=
    ⟨[a, b, c, d], rfl, fun _ chars => .unit digits chars⟩
  dsimp only at chosen
  split at chosen
  · split at chosen
    · split at chosen
      · rename_i second left unit
        split at chosen
        · obtain ⟨-, rfl⟩ := Prod.mk.inj (Option.some.inj chosen)
          obtain ⟨a', b', c', d', rfl, digits'⟩ := readUnit_sound unit
          exact ⟨a :: b :: c :: d :: '\\' :: 'u' :: [a', b', c', d'], rfl,
            fun _ chars => .unit digits (.unit digits' chars)⟩
        · cases chosen
          exact single
      · cases chosen
        exact single
    · cases chosen
      exact single
  · cases chosen
    exact single

theorem simpleEscape_isSome_iff {c : Char} :
    (simpleEscape c).isSome ↔ c ∈ ['"', '\\', '/', 'b', 'f', 'n', 'r', 't'] := by
  unfold simpleEscape
  split <;> simp_all

theorem readString_accounts (fuel : Nat) (before s : List Char) :
    Accounts IsChars ['"'] s (readString fuel before s) := by
  induction fuel generalizing before s with
  | zero => exact .refused (by simp)
  | succ fuel ih =>
    unfold readString
    split
    · exact .refused (by simp)
    · exact .read _ .nil rfl
    · exact .refused (by simp)
    · split
      · exact .refused (by simp)
      · rename_i escape
        obtain ⟨escapes, rfl, chars⟩ := readUnicodeEscape_sound escape
        exact (ih _ _).behind ('\\' :: 'u' :: escapes) fun body rest inside same =>
          ⟨_, chars body inside, by simp [same]⟩
    · split
      · exact .refused (by simp)
      · rename_i escape
        have simple := simpleEscape_isSome_iff.mp (Option.isSome_iff_exists.mpr ⟨_, escape⟩)
        exact (ih _ _).behind ['\\', _] fun body rest inside same =>
          ⟨_, .escaped simple inside, by simp [same]⟩
    · rename_i c after quote single unicode simple
      split
      · exact .refused (by simp)
      · rename_i printed
        refine (ih _ _).behind [c] fun body rest inside same => ?_
        -- A backslash has been met in the cases before, whatever comes behind it.
        have backslash : c ≠ '\\' := by
          rintro rfl
          cases body with
          | nil => exact simple _ _ rfl same
          | cons d body => exact simple _ _ rfl same
        exact ⟨_, .plain (Nat.le_of_not_lt printed) quote backslash inside, by simp [same]⟩

/-- What the reader takes for one escape ends inside the string, at the end of an escape. -/
theorem readUnicodeEscape_complete {a b c d : Char} {body : List Char} (digits : ∀ x ∈ [a, b, c, d], IsHex x)
    (chars : IsChars body) (rest : List Char) : ∃ char left, IsChars left ∧ left.length ≤ body.length ∧
      readUnicodeEscape (a :: b :: c :: d :: (body ++ '"' :: rest)) = some (char, left ++ '"' :: rest) := by
  have more : body ++ '"' :: rest ≠ [] := by simp
  obtain ⟨first, unit⟩ := readUnit_complete digits more
  unfold readUnicodeEscape
  rw [unit]
  simp only [Option.bind_eq_bind, Option.bind_some]
  split
  · rename_i after starts
    split
    · split
      · rename_i second left unit
        split
        · obtain ⟨a', b', c', d', rfl, -⟩ := readUnit_sound unit
          cases chars with
          | nil => cases starts
          | plain _ _ backslash _ => exact absurd (List.cons.inj starts).1 backslash
          | escaped simple _ =>
            rw [(List.cons.inj (List.cons.inj starts).2).1] at simple
            exact absurd simple (by decide)
          | @unit _ _ _ _ inside _ chars =>
            simp only [List.cons_append, List.cons.injEq, true_and] at starts
            exact ⟨_, inside, chars, by simp only [List.length_cons]; omega, by rw [starts.2.2.2.2]⟩
        · exact ⟨_, body, chars, Nat.le_refl _, by rw [starts]⟩
      · exact ⟨_, body, chars, Nat.le_refl _, by rw [starts]⟩
    · exact ⟨_, body, chars, Nat.le_refl _, by rw [starts]⟩
  · exact ⟨_, body, chars, Nat.le_refl _, rfl⟩

theorem readString_complete {body : List Char} (chars : IsChars body) (enough : body.length < fuel)
    (before rest : List Char) : ∃ t, readString fuel before (body ++ '"' :: rest) = .ok (t, rest) := by
  induction fuel generalizing body before with
  | zero => cases enough
  | succ fuel ih =>
    cases chars with
    | nil => exact ⟨_, rfl⟩
    | @plain c s printed quote backslash chars =>
      obtain ⟨t, read⟩ := ih chars (Nat.lt_of_succ_lt_succ enough) (c :: before)
      refine ⟨t, ?_⟩
      rw [List.cons_append, readString, if_neg (Nat.not_lt.mpr printed), read]
      all_goals simp [quote, backslash]
    | @escaped c s simple chars =>
      obtain ⟨d, escape⟩ := Option.isSome_iff_exists.mp (simpleEscape_isSome_iff.mpr simple)
      obtain ⟨t, read⟩ := ih chars (by simp only [List.length_cons] at enough; omega) (d :: before)
      refine ⟨t, ?_⟩
      rw [List.cons_append, List.cons_append, readString, escape]
      · exact read
      · rintro rfl
        cases escape
    | unit digits chars =>
      obtain ⟨c, left, chars, fewer, escape⟩ := readUnicodeEscape_complete digits chars rest
      obtain ⟨t, read⟩ := ih chars (by simp only [List.length_cons] at enough; omega) (c :: before)
      refine ⟨t, ?_⟩
      simp only [List.cons_append, readString, escape]
      exact read

theorem readString_string (fuel : Nat) (s : List Char) :
    Accounts IsString [] ('"' :: s) (readString fuel [] s) :=
  (readString_accounts fuel [] s).behind ['"'] fun _ _ chars same => ⟨_, .quoted chars, by simp [same]⟩

theorem IsString.read (string : IsString text) (rest : List Char) :
    ∃ body t, text ++ rest = '"' :: body ∧ readString (body.length + 1) [] body = .ok (t, rest) := by
  cases string with
  | @quoted body chars =>
    have enough : body.length < (body ++ '"' :: rest).length + 1 := by
      rw [List.length_append]
      omega
    obtain ⟨t, read⟩ := readString_complete chars enough [] rest
    exact ⟨_, t, by simp, read⟩

/-! ### What is read conforms -/

theorem afterWord_sound {word : String} (found : afterWord word s = some rest) : s = word.toList ++ rest := by
  unfold afterWord at found
  split at found
  · rename_i starts
    cases found
    obtain ⟨more, rfl⟩ := List.isPrefixOf_iff_prefix.mp starts
    rw [List.drop_left]
  · cases found

theorem words_sound {v : Json}
    (found : (words.findSome? fun (word, value) => (afterWord word s).map (value, ·)) = some (v, rest)) :
    ∃ w ∈ Dialect.accepted.words, s = w ++ rest := by
  obtain ⟨⟨word, value⟩, member, here⟩ := List.exists_of_findSome?_eq_some found
  obtain ⟨left, after, same⟩ := Option.map_eq_some_iff.mp here
  cases same
  exact ⟨word.toList, List.mem_map_of_mem (f := fun entry : String × Json => entry.1.toList) member,
    afterWord_sound after⟩

/-- Blanks in front of the first value or name do not count. -/
theorem Conforms.indent {part : Part} {gap : List Char} (blank : Blanks gap) (conforms : Conforms D part s)
    (nested : part ≠ .value) : Conforms D part (gap ++ s) := by
  have joined : ∀ {before : List Char}, Blanks before → Blanks (gap ++ before) := fun leading =>
    List.forall_mem_append.mpr ⟨blank, leading⟩
  induction conforms with
  | word | number | string | emptyArray | array | emptyObject | object => exact absurd rfl nested
  | element leading value trailing =>
    rw [← List.append_assoc]
    exact .element (joined leading) value trailing
  | lastElement _ ih => exact .lastElement (ih (by simp))
  | elements _ others ih =>
    rw [← List.append_assoc]
    exact .elements (ih (by simp)) others
  | member leading named between element =>
    rw [← List.append_assoc]
    exact .member (joined leading) named between element
  | lastMember _ ih => exact .lastMember (ih (by simp))
  | members _ others ih =>
    rw [← List.append_assoc]
    exact .members (ih (by simp)) others

/-- What comes first after blanks, with the blanks. -/
theorem exists_gap {more : List Char} (skipped : skipBlanks s = more) :
    ∃ gap, Blanks gap ∧ s = gap ++ more := by
  subst skipped
  exact exists_blanks s

/-- What an element starts with: all of it but the blanks at its end. -/
def Opens (s : List Char) : Prop := ∀ {after}, Blanks after → Conforms .accepted .element (s ++ after)

section

variable (value : ∀ s, Accounts (Conforms .accepted .value) [] s (readValue fuel s))
  (members : ∀ before s, Accounts (Conforms .accepted .members) ['}'] s (readMembers fuel before s))
  (items : ∀ before s, Accounts (Conforms .accepted .elements) [']'] s (readItems fuel before s))

include members in
theorem members_accounts (before : List (String × Json)) (s : List Char) :
    Accounts (Conforms .accepted .members) ['}'] s (readMembers fuel before (skipBlanks s)) :=
  (members before _).indented fun blank inside => inside.indent blank (by simp)

include items in
theorem items_accounts (before : List Json) (s : List Char) :
    Accounts (Conforms .accepted .elements) [']'] s (readItems fuel before (skipBlanks s)) :=
  (items before _).indented fun blank inside => inside.indent blank (by simp)

include value in
theorem opens_accounts (s : List Char) : Accounts Opens [] s (readValue fuel (skipBlanks s)) := by
  have accounts : Accounts Opens [] (skipBlanks s) (readValue fuel (skipBlanks s)) :=
    (value _).behind [] fun text rest conforms same =>
      ⟨text, fun blank => .element .nil conforms blank, same⟩
  refine accounts.indented fun {gap text} blank opens after trailing => ?_
  rw [List.append_assoc]
  exact (opens trailing).indent blank (by simp)

include members items in
theorem readValue_accounts (s : List Char) :
    Accounts (Conforms .accepted .value) [] s (readValue (fuel + 1) s) := by
  unfold readValue
  split
  · exact .refused (by simp)
  · refine (readString_string _ _).bind [] fun t text rest string same => ?_
    exact .read _ (.string string) same
  · split
    · rename_i closed
      obtain ⟨gap, blank, rfl⟩ := exists_gap closed
      exact .read _ (.emptyObject blank) (by simp)
    · exact (members_accounts members [] _).behind ['{'] fun text rest inside same =>
        ⟨_, Conforms.object inside, by simp [same]⟩
  · split
    · rename_i closed
      obtain ⟨gap, blank, rfl⟩ := exists_gap closed
      exact .read _ (.emptyArray blank) (by simp)
    · exact (items_accounts items [] _).behind ['['] fun text rest inside same =>
        ⟨_, Conforms.array inside, by simp [same]⟩
  · split
    · rename_i found
      obtain ⟨w, known, same⟩ := words_sound found
      exact .read _ (.word known) same
    · exact (readNumber_accounts _).behind [] fun text rest number same => ⟨text, .number number, same⟩

include value members in
theorem readMembers_accounts (before : List (String × Json)) (s : List Char) :
    Accounts (Conforms .accepted .members) ['}'] s (readMembers (fuel + 1) before s) := by
  unfold readMembers
  split
  · refine (readString_string _ _).bind [] fun t name left named same => ?_
    rw [same]
    dsimp only
    split
    · rename_i after colon
      obtain ⟨gap, blank, rfl⟩ := exists_gap colon
      have front : name ++ ([] ++ (gap ++ ':' :: after)) = (name ++ (gap ++ [':'])) ++ after := by simp
      rw [List.nil_append, front]
      refine (opens_accounts value after).bind _ fun v text left opens same => ?_
      have member : ∀ {trailing : List Char}, Blanks trailing → Conforms .accepted .member
          (name ++ (gap ++ ':' :: (text ++ trailing))) := fun trailing =>
        .member .nil named blank (opens trailing)
      subst same
      dsimp only
      split
      · rename_i closed
        obtain ⟨trailing, blank, rfl⟩ := exists_gap closed
        exact .read _ (.lastMember (member blank)) (by simp)
      · rename_i rest comma
        obtain ⟨trailing, blank, rfl⟩ := exists_gap comma
        have front : name ++ (gap ++ [':']) ++ (text ++ ([] ++ (trailing ++ ',' :: rest))) =
            (name ++ (gap ++ ':' :: (text ++ trailing)) ++ [',']) ++ rest := by simp
        rw [front]
        exact (members_accounts members _ rest).behind _ fun others rest conforms same =>
          ⟨_, Conforms.members (member blank) conforms, by simp [same]⟩
      · exact .refused (by simp)
    · exact .refused (by simp)
  · exact .refused (by simp)

include value items in
theorem readItems_accounts (before : List Json) (s : List Char) :
    Accounts (Conforms .accepted .elements) [']'] s (readItems (fuel + 1) before s) := by
  unfold readItems
  refine (value s).bind [] fun v text left conforms same => ?_
  have element : ∀ {trailing : List Char}, Blanks trailing → Conforms .accepted .element (text ++ trailing) :=
    fun trailing => .element .nil conforms trailing
  subst same
  dsimp only
  split
  · rename_i closed
    obtain ⟨trailing, blank, rfl⟩ := exists_gap closed
    exact .read _ (.lastElement (element blank)) (by simp)
  · rename_i rest comma
    obtain ⟨trailing, blank, rfl⟩ := exists_gap comma
    have front : [] ++ (text ++ ([] ++ (trailing ++ ',' :: rest))) = (text ++ trailing ++ [',']) ++ rest := by
      simp
    rw [front]
    exact (items_accounts items _ rest).behind _ fun others rest conforms same =>
      ⟨_, Conforms.elements (element blank) conforms, by simp [same]⟩
  · exact .refused (by simp)

end

theorem values_accounts (fuel : Nat) :
    (∀ s, Accounts (Conforms .accepted .value) [] s (readValue fuel s)) ∧
    (∀ before s, Accounts (Conforms .accepted .members) ['}'] s (readMembers fuel before s)) ∧
    (∀ before s, Accounts (Conforms .accepted .elements) [']'] s (readItems fuel before s)) := by
  induction fuel with
  | zero =>
    refine ⟨fun s => ?_, fun before s => ?_, fun before s => ?_⟩
    all_goals exact .refused (by simp)
  | succ fuel ih =>
    obtain ⟨value, members, items⟩ := ih
    exact ⟨readValue_accounts members items, readMembers_accounts value members,
      readItems_accounts value items⟩

/-! ### What conforms is read -/

/-- A number starts with a digit or with a sign and a digit. -/
theorem IsNumber.starts (number : IsNumber D text) :
    ∃ d more, (text = d :: more ∨ text = '-' :: d :: more) ∧ d.isDigit = true := by
  cases number with
  | mk signed integer =>
    obtain ⟨d, more, rfl, digit⟩ := integer.exists_digit
    rcases signed with rfl | rfl
    · exact ⟨d, _, .inl rfl, digit⟩
    · exact ⟨d, _, .inr rfl, digit⟩

/-- The first character of a number starts neither a string nor brackets, and is no blank. -/
theorem IsNumber.head (number : IsNumber D text) : ∃ c more, text = c :: more ∧ isBlank c = false ∧
    c ∉ ['"', '{', '[', ']', '\ufeff'] := by
  obtain ⟨d, more, starts, digit⟩ := number.starts
  rcases starts with rfl | rfl
  · have other : ∀ c ∈ [' ', '\t', '\n', '\r', '"', '{', '[', ']', '\ufeff'], d ≠ c := by
      intro c member
      have nonDigit : ∀ c ∈ [' ', '\t', '\n', '\r', '"', '{', '[', ']', '\ufeff'],
          c.isDigit = false := List.all_iff_forall_prop.mp (by decide)
      exact isDigit_ne digit (nonDigit c member)
    simp only [List.forall_mem_cons] at other
    exact ⟨d, more, rfl, by simp [isBlank, other], by simp [other]⟩
  · exact ⟨'-', _, rfl, by decide, by decide⟩

/-- No word starts a number. -/
theorem IsNumber.noWord (number : IsNumber D text) (rest : List Char) :
    (words.findSome? fun (word, value) => (afterWord word (text ++ rest)).map (value, ·)) = none := by
  rw [List.findSome?_eq_none_iff]
  rintro ⟨word, value⟩ member
  obtain ⟨d, e, letters, spelled, first, second⟩ := words_letters _ member
  obtain ⟨c, more, starts, digit⟩ := number.starts
  have other : (d == c) = false := beq_eq_false_iff_ne.mpr (Ne.symm (isDigit_ne digit first))
  have another : (e == c) = false := beq_eq_false_iff_ne.mpr (Ne.symm (isDigit_ne digit second))
  have apart : List.isPrefixOf (d :: e :: letters) (text ++ rest) = false := by
    rcases starts with rfl | rfl
    · simp only [List.cons_append, List.isPrefixOf_cons_cons, other, Bool.false_and]
    · simp only [List.cons_append, List.isPrefixOf_cons_cons, another, Bool.false_and, Bool.and_false]
  have absent : afterWord word (text ++ rest) = none := by
    rw [afterWord, spelled, apart]
    rfl
  dsimp only
  rw [absent]
  rfl

theorem readValue_number (number : IsNumber D text) (rest : List Char) :
    readValue (fuel + 1) (text ++ rest) = readNumber (text ++ rest) := by
  have noWord := number.noWord rest
  obtain ⟨c, more, rfl, -, other⟩ := number.head
  rw [List.cons_append] at noWord ⊢
  rw [readValue, noWord]
  · exact List.cons_ne_nil _ _
  · rintro _ same
    exact other (by simp [(List.cons.inj same).1])
  · rintro _ same
    exact other (by simp [(List.cons.inj same).1])
  · rintro _ same
    exact other (by simp [(List.cons.inj same).1])

theorem readValue_word {w : List Char} (known : w ∈ Dialect.accepted.words) (fuel : Nat) (rest : List Char) :
    ∃ v, readValue (fuel + 1) (w ++ rest) = .ok (v, rest) := by
  simp only [Dialect.accepted, Dialect.extended, Dialect.standard, List.cons_append, List.nil_append,
    List.mem_cons, List.not_mem_nil, or_false] at known
  rcases known with rfl | rfl | rfl | rfl | rfl | rfl <;> exact ⟨_, rfl⟩

section

variable (known : D.words ⊆ Dialect.accepted.words)

include known

/-- A value starts with neither a blank nor what closes an array, nor with a byte order mark. -/
theorem Conforms.head (value : Conforms D .value s) :
    ∃ c more, s = c :: more ∧ isBlank c = false ∧ c ≠ ']' ∧ c ≠ '\ufeff' := by
  cases value with
  | word listed =>
    have all : ∀ w ∈ Dialect.accepted.words,
        ∃ c more, w = c :: more ∧ isBlank c = false ∧ c ≠ ']' ∧ c ≠ '\ufeff' := by
      intro w listed
      simp only [Dialect.accepted, Dialect.extended, Dialect.standard, List.cons_append, List.nil_append,
        List.mem_cons, List.not_mem_nil, or_false] at listed
      rcases listed with rfl | rfl | rfl | rfl | rfl | rfl <;> exact ⟨_, _, rfl, by decide⟩
    exact all s (known listed)
  | number number =>
    obtain ⟨c, more, rfl, solid, other⟩ := number.head
    simp only [List.mem_cons, not_or] at other
    exact ⟨c, more, rfl, solid, other.2.2.2.1, other.2.2.2.2.1⟩
  | string string =>
    cases string
    exact ⟨_, _, rfl, by decide⟩
  | emptyArray | array | emptyObject | object => exact ⟨_, _, rfl, by decide⟩

theorem Conforms.skipBlanks_value (value : Conforms D .value s) (rest : List Char) :
    skipBlanks (s ++ rest) = s ++ rest := by
  obtain ⟨c, more, rfl, solid, -⟩ := value.head known
  rw [List.cons_append, skipBlanks_cons solid]

theorem Conforms.skipBlanks_elements (elements : Conforms D .elements s) (rest : List Char) :
    ∃ c more, skipBlanks (s ++ rest) = c :: more ∧ c ≠ ']' := by
  have first : ∀ {s} (_ : Conforms D .element s) rest,
      ∃ c more, skipBlanks (s ++ rest) = c :: more ∧ c ≠ ']' := by
    intro s element rest
    cases element with
    | element leading value trailing =>
      obtain ⟨c, more, rfl, -, other, -⟩ := value.head known
      simp only [List.append_assoc]
      rw [leading.skip, value.skipBlanks_value known]
      exact ⟨c, _, rfl, other⟩
  cases elements with
  | lastElement element => exact first element rest
  | elements element _ =>
    rw [List.append_assoc]
    exact first element _

omit known in
theorem Conforms.skipBlanks_members (members : Conforms D .members s) (rest : List Char) :
    ∃ more, skipBlanks (s ++ rest) = '"' :: more := by
  have first : ∀ {s} (_ : Conforms D .member s) rest, ∃ more, skipBlanks (s ++ rest) = '"' :: more := by
    intro s member rest
    cases member with
    | member leading named blank _ =>
      cases named
      simp only [List.append_assoc]
      rw [leading.skip, List.cons_append, skipBlanks_cons (by decide)]
      exact ⟨_, rfl⟩
  cases members with
  | lastMember member => exact first member rest
  | members member _ =>
    rw [List.append_assoc]
    exact first member _

end

/-- How reading goes on behind a member. -/
def behindMember (fuel : Nat) (members : List (String × Json)) (s : List Char) :
    Except Fault (Json × List Char) :=
  match skipBlanks s with
  | '}' :: rest => .ok (.obj members, rest)
  | ',' :: rest => readMembers fuel members (skipBlanks rest)
  | _ => .error .expectingComma

/-- What the reader makes of a part in front of a text. Every part but a value is read from its first
character on that is no blank. -/
def Reads (D : Dialect) : Part → List Char → Prop
  | .value, s => ∀ {fuel rest}, Stops rest → 2 * s.length ≤ fuel →
      Taken D (· = rest) (readValue fuel (s ++ rest))
  | .element, s => ∀ {fuel rest}, Stops rest → 2 * s.length ≤ fuel →
      Taken D (fun left => skipBlanks left = skipBlanks rest) (readValue fuel (skipBlanks (s ++ rest)))
  | .elements, s => ∀ {fuel items rest}, 2 * s.length < fuel →
      Taken D (· = rest) (readItems fuel items (skipBlanks (s ++ ']' :: rest)))
  | .member, s => ∀ {fuel members rest left}, Stops rest → 2 * s.length ≤ fuel →
      (∀ members, Taken D left (behindMember fuel members rest)) →
        Taken D left (readMembers (fuel + 1) members (skipBlanks (s ++ rest)))
  | .members, s => ∀ {fuel members rest}, 2 * s.length < fuel →
      Taken D (· = rest) (readMembers fuel members (skipBlanks (s ++ '}' :: rest)))

theorem stops_of_mem {c : Char} (mark : c ∈ [',', ']', '}']) : Stops (c :: rest) := by
  have all : ∀ c ∈ [',', ']', '}'], c.isDigit = false ∧ c ≠ '.' ∧ c ≠ 'e' ∧ c ≠ 'E' :=
    List.all_iff_forall_prop.mp (by decide)
  intro d first
  cases first
  exact all c mark

theorem Stops.behind_blanks {gap : List Char} (blank : Blanks gap) (stops : Stops rest) :
    Stops (gap ++ rest) := by
  intro c first
  cases gap with
  | nil => exact stops c first
  | cons d gap =>
    cases first
    rcases blank c List.mem_cons_self with rfl | rfl | rfl | rfl <;> decide

theorem reads_of_succ (known : D.words ⊆ Dialect.accepted.words) (value : Conforms D .value s)
    (reads : ∀ {fuel rest}, Stops rest → 2 * s.length ≤ fuel + 1 →
      Taken D (· = rest) (readValue (fuel + 1) (s ++ rest))) : Reads D .value s := by
  intro fuel rest stops enough
  obtain ⟨c, more, rfl, -⟩ := value.head known
  rw [List.length_cons] at enough
  obtain ⟨fuel, rfl⟩ := Nat.exists_eq_add_one.mpr (by omega : 0 < fuel)
  exact reads stops enough

theorem reads_word {w : List Char} (known : D.words ⊆ Dialect.accepted.words) (listed : w ∈ D.words) :
    Reads D .value w := by
  refine reads_of_succ known (.word listed) fun {fuel rest} _ _ => ?_
  obtain ⟨v, read⟩ := readValue_word (known listed) fuel rest
  rw [read]
  exact .read v rfl

theorem reads_number (known : D.words ⊆ Dialect.accepted.words) (number : IsNumber D s) :
    Reads D .value s := by
  refine reads_of_succ known (.number number) fun {fuel rest} stops _ => ?_
  rw [readValue_number number]
  exact readNumber_complete number stops

theorem reads_string (known : D.words ⊆ Dialect.accepted.words) (string : IsString s) :
    Reads D .value s := by
  refine reads_of_succ known (.string string) fun {fuel rest} _ _ => ?_
  obtain ⟨body, t, same, read⟩ := string.read rest
  rw [same, readValue, read]
  exact .read _ rfl

theorem reads_emptyArray {gap : List Char} (known : D.words ⊆ Dialect.accepted.words) (blank : Blanks gap) :
    Reads D .value ('[' :: (gap ++ [']'])) := by
  refine reads_of_succ known (.emptyArray blank) fun {fuel rest} _ _ => ?_
  have closed : skipBlanks (gap ++ [']'] ++ rest) = ']' :: rest := by
    rw [List.append_assoc, blank.skip, List.singleton_append, skipBlanks_cons (by decide)]
  rw [List.cons_append, readValue, closed]
  exact .read _ rfl

theorem reads_emptyObject {gap : List Char} (known : D.words ⊆ Dialect.accepted.words) (blank : Blanks gap) :
    Reads D .value ('{' :: (gap ++ ['}'])) := by
  refine reads_of_succ known (.emptyObject blank) fun {fuel rest} _ _ => ?_
  have closed : skipBlanks (gap ++ ['}'] ++ rest) = '}' :: rest := by
    rw [List.append_assoc, blank.skip, List.singleton_append, skipBlanks_cons (by decide)]
  rw [List.cons_append, readValue, closed]
  exact .read _ rfl

theorem reads_array (known : D.words ⊆ Dialect.accepted.words) (inside : Conforms D .elements s)
    (reads : Reads D .elements s) : Reads D .value ('[' :: (s ++ [']'])) := by
  refine reads_of_succ known (.array inside) fun {fuel rest} _ enough => ?_
  simp only [List.length_cons, List.length_append, List.length_nil] at enough
  have items : Taken D (· = rest) (readItems fuel [] (skipBlanks (s ++ ']' :: rest))) := reads (by omega)
  obtain ⟨c, more, starts, other⟩ := inside.skipBlanks_elements known (']' :: rest)
  rw [starts] at items
  rw [List.cons_append, List.append_assoc, List.singleton_append, readValue, starts]
  split
  · rename_i same
    exact absurd (List.cons.inj same).1 other
  · exact items

theorem reads_object (known : D.words ⊆ Dialect.accepted.words) (inside : Conforms D .members s)
    (reads : Reads D .members s) : Reads D .value ('{' :: (s ++ ['}'])) := by
  refine reads_of_succ known (.object inside) fun {fuel rest} _ enough => ?_
  simp only [List.length_cons, List.length_append, List.length_nil] at enough
  have members : Taken D (· = rest) (readMembers fuel [] (skipBlanks (s ++ '}' :: rest))) := reads (by omega)
  obtain ⟨more, starts⟩ := inside.skipBlanks_members ('}' :: rest)
  rw [starts] at members
  rw [List.cons_append, List.append_assoc, List.singleton_append, readValue, starts]
  exact members

theorem reads_element {before after : List Char} (known : D.words ⊆ Dialect.accepted.words)
    (leading : Blanks before) (value : Conforms D .value s) (trailing : Blanks after)
    (reads : Reads D .value s) : Reads D .element (before ++ (s ++ after)) := by
  intro fuel rest stops enough
  simp only [List.length_append] at enough
  have here : Taken D (· = after ++ rest) (readValue fuel (s ++ (after ++ rest))) :=
    reads (stops.behind_blanks trailing) (by omega)
  simp only [List.append_assoc]
  rw [leading.skip, value.skipBlanks_value known]
  exact here.mono fun left same => same ▸ trailing.skip rest

theorem reads_lastElement (reads : Reads D .element s) : Reads D .elements s := by
  intro fuel items rest enough
  obtain ⟨fuel, rfl⟩ := Nat.exists_eq_add_one.mpr (by omega : 0 < fuel)
  rw [readItems]
  refine (reads (stops_of_mem (by decide)) (by omega)).bind fun v left same => ?_
  dsimp only
  rw [same, skipBlanks_cons (by decide)]
  exact .read _ rfl

theorem reads_elements {more : List Char} (reads : Reads D .element s) (others : Reads D .elements more) :
    Reads D .elements (s ++ ',' :: more) := by
  intro fuel items rest enough
  simp only [List.length_append, List.length_cons] at enough
  obtain ⟨fuel, rfl⟩ := Nat.exists_eq_add_one.mpr (by omega : 0 < fuel)
  rw [List.append_assoc, List.cons_append, readItems]
  refine (reads (stops_of_mem (by decide)) (by omega)).bind fun v left same => ?_
  dsimp only
  rw [same, skipBlanks_cons (by decide)]
  exact others (by omega)

theorem reads_member {before name gap : List Char} (leading : Blanks before) (named : IsString name)
    (blank : Blanks gap) (reads : Reads D .element s) :
    Reads D .member (before ++ (name ++ (gap ++ ':' :: s))) := by
  intro fuel members rest left stops enough later
  simp only [List.length_append, List.length_cons] at enough
  obtain ⟨body, t, same, read⟩ := named.read (gap ++ ':' :: s ++ rest)
  have starts : skipBlanks (before ++ (name ++ (gap ++ ':' :: s)) ++ rest) = '"' :: body := by
    rw [List.append_assoc, leading.skip, List.append_assoc, same, skipBlanks_cons (by decide)]
  have colon : skipBlanks (gap ++ ':' :: s ++ rest) = ':' :: (s ++ rest) := by
    rw [List.append_assoc, blank.skip, List.cons_append, skipBlanks_cons (by decide)]
  rw [starts, readMembers, read]
  simp only [bind, Except.bind, colon]
  refine (reads stops (by omega)).bind fun v after skipped => ?_
  have behind := later (put t v members)
  rw [behindMember, ← skipped] at behind
  exact behind

theorem reads_lastMember (reads : Reads D .member s) : Reads D .members s := by
  intro fuel members rest enough
  obtain ⟨fuel, rfl⟩ := Nat.exists_eq_add_one.mpr (by omega : 0 < fuel)
  refine reads (stops_of_mem (by decide)) (by omega) fun members => ?_
  rw [behindMember, skipBlanks_cons (by decide)]
  exact .read _ rfl

theorem reads_members {more : List Char} (reads : Reads D .member s) (others : Reads D .members more) :
    Reads D .members (s ++ ',' :: more) := by
  intro fuel members rest enough
  simp only [List.length_append, List.length_cons] at enough
  obtain ⟨fuel, rfl⟩ := Nat.exists_eq_add_one.mpr (by omega : 0 < fuel)
  rw [List.append_assoc, List.cons_append]
  refine reads (stops_of_mem (by decide)) (by omega) fun members => ?_
  rw [behindMember, skipBlanks_cons (by decide)]
  exact others (by omega)

theorem Conforms.reads {part : Part} (known : D.words ⊆ Dialect.accepted.words)
    (conforms : Conforms D part s) : Reads D part s := by
  induction conforms with
  | word listed => exact reads_word known listed
  | number number => exact reads_number known number
  | string string => exact reads_string known string
  | emptyArray blank => exact reads_emptyArray known blank
  | array inside ih => exact reads_array known inside ih
  | emptyObject blank => exact reads_emptyObject known blank
  | object inside ih => exact reads_object known inside ih
  | element leading value trailing ih => exact reads_element known leading value trailing ih
  | lastElement _ ih => exact reads_lastElement ih
  | elements _ _ ih others => exact reads_elements ih others
  | member leading named blank _ ih => exact reads_member leading named blank ih
  | lastMember _ ih => exact reads_lastMember ih
  | members _ _ ih others => exact reads_members ih others

/-! ### Whole texts -/

variable {t : String}

/-- The reader reads the texts of a dialect, save those with an integer that the dialect allows and
the reader does not. -/
theorem read_isText (known : D.words ⊆ Dialect.accepted.words) (isText : IsText D t.toList) :
    (∃ v, read t = .ok v) ∨ D.limit ≠ some digitLimit ∧ ∃ count, read t = .error (.tooManyDigits count) := by
  have taken : Taken D (fun left => skipBlanks left = skipBlanks [])
      (readValue (2 * t.toList.length + 1) (skipBlanks (t.toList ++ []))) :=
    isText.reads known nofun (Nat.le_succ _)
  have noMark : ∀ more, t.toList ≠ '\ufeff' :: more := by
    intro more marked
    rw [marked] at isText
    generalize starts : '\ufeff' :: more = s at isText
    cases isText with
    | @element before s after leading value trailing =>
      cases before with
      | nil =>
        obtain ⟨c, _, rfl, -, -, other⟩ := value.head known
        exact other (List.cons.inj starts).1.symm
      | cons d before =>
        have blank := leading d List.mem_cons_self
        rw [← (List.cons.inj starts).1] at blank
        exact absurd blank (by decide)
  rw [List.append_nil] at taken
  unfold read readAll
  split
  · rename_i marked
    exact absurd marked (noMark _)
  · generalize readValue (2 * t.toList.length + 1) (skipBlanks t.toList) = outcome at taken
    cases taken with
    | read v left =>
      refine .inl ⟨v, ?_⟩
      simp only [bind, Except.bind, left]
      rfl
    | beyond count other => exact .inr ⟨other, count, rfl⟩

/-- Reading succeeds on the texts of the dialect that is read, and on no others. -/
theorem read_ok_iff : (∃ v, read t = .ok v) ↔ IsText .accepted t.toList := by
  constructor
  · rintro ⟨v, found⟩
    unfold read readAll at found
    split at found
    · cases found
    · obtain ⟨⟨v, left⟩, value, done⟩ := bind_eq_ok.mp found
      have accounts := opens_accounts (values_accounts (2 * t.toList.length + 1)).1 t.toList
      rw [value] at accounts
      dsimp only at done
      split at done
      · rename_i nothing
        have trailing : Blanks left := skipBlanks_eq_nil_iff.mp (List.isEmpty_iff.mp nothing)
        cases accounts with
        | read _ opens same =>
          rw [same]
          exact opens trailing
      · cases done
  · intro isText
    rcases read_isText (List.Subset.refl _) isText with found | ⟨other, -⟩
    · exact found
    · exact absurd rfl other

/-- Too many digits are refused where they stand in the text. -/
theorem read_run {count : Nat} (refused : read t = .error (.tooManyDigits count)) :
    HasRun t.toList count := by
  unfold read readAll at refused
  split at refused
  · cases refused
  · rcases bind_eq_error.mp refused with value | ⟨_, _, done⟩
    · have accounts := opens_accounts (values_accounts (2 * t.toList.length + 1)).1 t.toList
      rw [value] at accounts
      cases accounts with
      | refused beyond => exact beyond count rfl
    · dsimp only at done
      split at done <;> cases done

end GoIdl.Json
