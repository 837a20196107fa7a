import GoIdl.Json.Reader
import GoIdl.Json.Writer
import GoIdl.Proofs.Members
import GoIdl.Proofs.Spans
import Mathlib.Data.List.Infix

/-!
# Written values read back

Reading undoes writing for every value without floating-point numbers, whatever it is nested in and
however the text is laid out with blanks. Each reader is shown to stop where the writer of its part
stopped; a number needs for that what no number goes on with.
-/

namespace GoIdl.Json

variable {rest s : List Char} {layout : Layout} {level fuel : Nat}

/-- A value without floating-point numbers. No object has two members of one name, and no integer has
more digits than are read. -/
inductive Exact : Json → Prop where
  | null : Exact .null
  | bool (value : Bool) : Exact (.bool value)
  | int {n : Int} (short : (Nat.toDigits 10 n.natAbs).length ≤ digitLimit) : Exact (.int n)
  | str (text : String) : Exact (.str text)
  | arr {items : List Json} (each : ∀ item ∈ items, Exact item) : Exact (.arr items)
  | obj {members : List (String × Json)} (distinct : (keys members).Nodup)
      (each : ∀ entry ∈ members, Exact entry.2) : Exact (.obj members)

/-! ### Strings -/

theorem hexNumber_hex {n : Nat} (small : n < 0x20) :
    ∃ a b c d, Text.hex 4 n = [a, b, c, d] ∧ Text.hexNumber [a, b, c, d] = some n := by
  have all : ∀ n < 0x20, (Text.hex 4 n).length = 4 ∧ Text.hexNumber (Text.hex 4 n) = some n := by
    decide
  obtain ⟨four, number⟩ := all n small
  match digits : Text.hex 4 n, four with
  | [a, b, c, d], _ =>
    rw [digits] at number
    exact ⟨a, b, c, d, rfl, number⟩

/-- The escape of a control character is read as that character, if something comes after it. -/
theorem readUnicodeEscape_hex {c : Char} (control : c.toNat < 0x20) (more : s ≠ []) :
    readUnicodeEscape (Text.hex 4 c.toNat ++ s) = some (c, s) := by
  obtain ⟨a, b, d, e, digits, number⟩ := hexNumber_hex control
  have unit : readUnit (a :: b :: d :: e :: s) = some (c.toNat, s) := by
    rw [readUnit, number]
    simp [more]
  have low : isHighSurrogate c.toNat = false ∧ isLowSurrogate c.toNat = false := by
    simp only [isHighSurrogate, isLowSurrogate, decide_eq_false_iff_not]
    omega
  have itself : charOfUnit c.toNat = c := by
    rw [charOfUnit, low.1, low.2]
    exact Char.ofNat_toNat c
  rw [digits]
  simp only [List.cons_append, List.nil_append]
  unfold readUnicodeEscape
  rw [unit]
  simp only [Option.bind_eq_bind, Option.bind_some]
  split
  · simp [low.1, itself]
  · rw [itself]

theorem readString_plain {c : Char} (quote : c ≠ '"') (backslash : c ≠ '\\') (printed : ¬ c.toNat < 0x20)
    (read : List Char) : readString (fuel + 1) read (c :: s) = readString fuel (c :: read) s := by
  rw [readString]
  · rw [if_neg printed]
  · exact quote
  · rintro rfl
    exact absurd rfl backslash
  · rintro _ rfl
    exact absurd rfl backslash
  · rintro _ _ rfl
    exact absurd rfl backslash

/-- A written character is read in one step, if something comes after it. -/
theorem readString_writeChar (c : Char) (read : List Char) (more : s ≠ []) :
    readString (fuel + 1) read (writeChar c ++ s) = readString fuel (c :: read) s := by
  unfold writeChar
  split
  · rename_i same
    subst same
    rfl
  · split
    · rename_i same
      subst same
      rfl
    · split
      · rename_i same
        subst same
        rfl
      · split
        · rename_i same
          subst same
          rfl
        · split
          · rename_i same
            subst same
            rfl
          · split
            · rename_i same
              subst same
              rfl
            · split
              · rename_i same
                subst same
                rfl
              · split
                · rename_i control
                  simp only [List.cons_append, readString, readUnicodeEscape_hex control more]
                · rename_i quote backslash _ _ _ _ _ printed
                  exact readString_plain quote backslash printed read

theorem writeChar_ne_nil (c : Char) : writeChar c ≠ [] := by
  unfold writeChar
  repeat' split
  all_goals simp

theorem readString_flatMap (chars read : List Char) (enough : (chars.flatMap writeChar).length < fuel) :
    readString fuel read (chars.flatMap writeChar ++ '"' :: rest) =
      .ok (String.ofList (read.reverse ++ chars), rest) := by
  induction chars generalizing fuel read with
  | nil =>
    obtain ⟨fuel, rfl⟩ := Nat.exists_eq_add_one.mpr (by omega : 0 < fuel)
    rw [List.append_nil]
    rfl
  | cons c chars ih =>
    obtain ⟨fuel, rfl⟩ := Nat.exists_eq_add_one.mpr (by omega : 0 < fuel)
    have positive : 0 < (writeChar c).length := List.length_pos_iff.mpr (writeChar_ne_nil c)
    rw [List.flatMap_cons, List.length_append] at enough
    rw [List.flatMap_cons, List.append_assoc, readString_writeChar c read (by simp),
      ih (c :: read) (by omega)]
    simp

theorem writeString_eq (text : String) (rest : List Char) :
    writeString text ++ rest = '"' :: (text.toList.flatMap writeChar ++ '"' :: rest) := by
  simp [writeString]

theorem readString_writeString (text : String) (rest : List Char) :
    readString ((text.toList.flatMap writeChar ++ '"' :: rest).length + 1) []
        (text.toList.flatMap writeChar ++ '"' :: rest) = .ok (text, rest) := by
  have room : (text.toList.flatMap writeChar).length <
      (text.toList.flatMap writeChar ++ '"' :: rest).length + 1 := by
    rw [List.length_append]
    omega
  rw [readString_flatMap _ _ room]
  simp

/-! ### Integers -/

/-- Nothing that a number goes on with. -/
def Stops (rest : List Char) : Prop :=
  ∀ c ∈ rest.head?, c.isDigit = false ∧ c ≠ '.' ∧ c ≠ 'e' ∧ c ≠ 'E'

theorem decimalValue_toDigits (n : Nat) : decimalValue (Nat.toDigits 10 n) = n := by
  have read := Nat.ofDigitChars_ten_toDigits (n := n)
  rwa [Nat.ofDigitChars_eq_foldl] at read

theorem toDigits_head {n : Nat} {more : List Char} (digits : Nat.toDigits 10 n = '0' :: more) :
    more = [] := by
  induction n using Nat.strongRecOn generalizing more with
  | ind n ih =>
    by_cases small : n < 10
    · rw [Nat.toDigits_of_lt_base small] at digits
      exact (List.cons.inj digits).2.symm
    · exfalso
      rw [Nat.toDigits_of_base_le (by decide) (Nat.le_of_not_lt small)] at digits
      cases first : Nat.toDigits 10 (n / 10) with
      | nil => exact Nat.toDigits_ne_nil first
      | cons c others =>
        rw [first, List.cons_append] at digits
        obtain ⟨rfl, -⟩ := List.cons.inj digits
        have single := ih (n / 10) (by omega) first
        rw [single] at first
        have value := decimalValue_toDigits (n / 10)
        rw [first] at value
        have zero : decimalValue ['0'] = 0 := rfl
        omega

theorem spanDigits_toDigits (n : Nat) (stops : Stops rest) :
    spanDigits (Nat.toDigits 10 n ++ rest) = (Nat.toDigits 10 n, rest) := by
  have digits : ∀ c ∈ Nat.toDigits 10 n, c.isDigit = true := fun c member =>
    Nat.isDigit_of_mem_toDigits (by decide) (by decide) member
  exact span_of_append digits fun c first => (stops c first).1

theorem readWhole_toDigits (n : Nat) (stops : Stops rest) :
    readWhole (Nat.toDigits 10 n ++ rest) = some (Nat.toDigits 10 n, rest) := by
  have spanned := spanDigits_toDigits n stops
  cases digits : Nat.toDigits 10 n with
  | nil => exact absurd digits Nat.toDigits_ne_nil
  | cons c more =>
    by_cases zero : c = '0'
    · subst zero
      obtain rfl := toDigits_head digits
      rfl
    · rw [digits, List.cons_append] at spanned
      rw [List.cons_append, readWhole, spanned]
      · exact List.cons_ne_nil _ _
      · intro _ same
        exact zero (List.cons.inj same).1

theorem readFraction_stops (stops : Stops rest) : readFraction rest = none := by
  cases rest with
  | nil => rfl
  | cons c rest =>
    rw [readFraction]
    intro _ same
    exact (stops c rfl).2.1 (List.cons.inj same).1

theorem readExponent_stops (stops : Stops rest) : readExponent rest = none := by
  cases rest with
  | nil => rfl
  | cons c rest =>
    have other : ¬ (c = 'e' ∨ c = 'E') := not_or.mpr (stops c rfl).2.2
    unfold readExponent
    dsimp only
    rw [if_neg other]

theorem isDigit_ne {c d : Char} (digit : c.isDigit = true) (other : d.isDigit = false) : c ≠ d := by
  rintro rfl
  rw [digit] at other
  cases other

theorem exists_digit (n : Nat) : ∃ c more, Nat.toDigits 10 n = c :: more ∧ c.isDigit = true := by
  cases digits : Nat.toDigits 10 n with
  | nil => exact absurd digits Nat.toDigits_ne_nil
  | cons c more =>
    refine ⟨c, more, rfl, Nat.isDigit_of_mem_toDigits (b := 10) (n := n) (by decide) (by decide) ?_⟩
    rw [digits]
    exact List.mem_cons_self

theorem readNumber_sign {unsigned whole : List Char} {negative : Bool}
    (sign : s = '-' :: unsigned ∧ negative = true ∨
      s = unsigned ∧ negative = false ∧ unsigned.head? ≠ some '-')
    (read : readWhole unsigned = some (whole, rest)) (short : whole.length ≤ digitLimit)
    (stops : Stops rest) :
    readNumber s =
      .ok (.int (if negative then -decimalValue whole else decimalValue whole), rest) := by
  have limit : ¬ digitLimit < whole.length := Nat.not_lt.mpr short
  unfold readNumber
  split
  rename_i found left signed
  have same : found = negative ∧ left = unsigned := by
    rcases sign with ⟨rfl, rfl⟩ | ⟨rfl, rfl, other⟩
    · cases signed
      exact ⟨rfl, rfl⟩
    · split at signed
      · exact absurd rfl other
      · cases signed
        exact ⟨rfl, rfl⟩
  obtain ⟨rfl, rfl⟩ := same
  rw [read]
  dsimp only
  simp only [readFraction_stops stops, readExponent_stops stops, Option.getD_none, Option.isNone_none,
    and_self, if_true, if_neg limit]

theorem readNumber_writeInt {n : Int} (short : (Nat.toDigits 10 n.natAbs).length ≤ digitLimit)
    (stops : Stops rest) : readNumber (writeInt n ++ rest) = .ok (.int n, rest) := by
  have read := readWhole_toDigits n.natAbs stops
  unfold writeInt
  split
  · have value : -(n.natAbs : Int) = n := by omega
    rw [List.cons_append, readNumber_sign (.inl ⟨rfl, rfl⟩) read short stops, decimalValue_toDigits, if_pos rfl, value]
  · have value : (n.natAbs : Int) = n := by omega
    have unsigned : (Nat.toDigits 10 n.natAbs ++ rest).head? ≠ some '-' := by
      obtain ⟨c, more, digits, digit⟩ := exists_digit n.natAbs
      rw [digits, List.cons_append, List.head?_cons]
      exact fun same => isDigit_ne digit (by decide) (Option.some.inj same)
    rw [readNumber_sign (.inr ⟨rfl, rfl, unsigned⟩) read short stops, decimalValue_toDigits]
    simp [value]

/-! ### Layouts -/

/-- Only blanks stand in front of items. -/
def Layout.Blank (layout : Layout) : Prop :=
  ∀ unit, layout = .indented unit → ∀ c ∈ unit, isBlank c = true

theorem lineBreak_blank (blank : layout.Blank) (level : Nat) :
    ∀ c ∈ layout.lineBreak level, isBlank c = true := by
  intro c member
  cases layout with
  | compact => cases member
  | indented unit =>
    rcases List.mem_cons.mp member with rfl | later
    · rfl
    · obtain ⟨piece, listed, inside⟩ := List.mem_flatten.mp later
      rw [List.eq_of_mem_replicate listed] at inside
      exact blank unit rfl c inside

theorem skipBlanks_append {blanks : List Char} (all : ∀ c ∈ blanks, isBlank c = true) (s : List Char) :
    skipBlanks (blanks ++ s) = skipBlanks s := List.dropWhile_append_of_pos all

theorem skipBlanks_cons {c : Char} (other : isBlank c = false) (s : List Char) :
    skipBlanks (c :: s) = c :: s := by
  rw [skipBlanks, List.dropWhile_cons_of_neg]
  simp [other]

/-- What comes behind the items, a closing bracket or what separates them, is no part of a number. -/
theorem stops_lineBreak (layout : Layout) (level : Nat) {c : Char}
    (other : c.isDigit = false ∧ c ≠ '.' ∧ c ≠ 'e' ∧ c ≠ 'E') :
    Stops (layout.lineBreak level ++ c :: rest) := by
  intro d first
  cases layout with
  | compact =>
    cases first
    exact other
  | indented unit =>
    cases first
    decide

theorem stops_itemBreak (layout : Layout) (level : Nat) (s : List Char) :
    Stops (layout.itemBreak level ++ s) := by
  intro c first
  cases layout <;> cases first <;> decide

theorem itemBreak_eq (blank : layout.Blank) (level : Nat) :
    ∃ blanks, layout.itemBreak level = ',' :: blanks ∧ ∀ c ∈ blanks, isBlank c = true := by
  cases layout with
  | compact => exact ⟨[' '], rfl, by simp [isBlank]⟩
  | indented unit => exact ⟨_, rfl, lineBreak_blank blank level⟩

/-! ### Values -/

/-- A written value starts with neither a blank nor what closes the brackets around it. -/
theorem writeAt_head {v : Json} (exact : Exact v) (layout : Layout) (level : Nat) :
    ∃ c more, writeAt layout level v = c :: more ∧ isBlank c = false ∧ c ≠ ']' ∧ c ≠ '\ufeff' := by
  cases exact with
  | null => exact ⟨_, _, rfl, by decide⟩
  | bool value => cases value <;> exact ⟨_, _, rfl, by decide⟩
  | @int n short =>
    rw [writeAt, writeInt]
    split
    · exact ⟨_, _, rfl, by decide⟩
    · obtain ⟨c, more, digits, digit⟩ := exists_digit n.natAbs
      refine ⟨c, more, digits, ?_, isDigit_ne digit (by decide), isDigit_ne digit (by decide)⟩
      simp [isBlank, isDigit_ne (d := ' ') digit (by decide), isDigit_ne (d := '\t') digit (by decide),
        isDigit_ne (d := '\n') digit (by decide), isDigit_ne (d := '\r') digit (by decide)]
  | str text => exact ⟨_, _, rfl, by decide⟩
  | @arr items each =>
    cases items with
    | nil => exact ⟨_, _, rfl, by decide⟩
    | cons item items =>
      rw [writeAt]
      exact ⟨_, _, rfl, by decide⟩
  | @obj members distinct each =>
    cases members with
    | nil => exact ⟨_, _, rfl, by decide⟩
    | cons entry members =>
      rw [writeAt]
      exact ⟨_, _, rfl, by decide⟩

theorem writeAt_length_pos {v : Json} (exact : Exact v) (layout : Layout) (level : Nat) :
    0 < (writeAt layout level v).length := by
  obtain ⟨c, more, starts, -⟩ := writeAt_head exact layout level
  rw [starts]
  exact Nat.succ_pos _

theorem skipBlanks_writeAt {v : Json} (exact : Exact v) (layout : Layout) (level : Nat) (s : List Char) :
    skipBlanks (writeAt layout level v ++ s) = writeAt layout level v ++ s := by
  obtain ⟨c, more, same, other, -⟩ := writeAt_head exact layout level
  rw [same, List.cons_append, skipBlanks_cons other]

theorem words_letters :
    ∀ entry ∈ words, ∃ d e more, entry.1.toList = d :: e :: more ∧ d.isDigit = false ∧ e.isDigit = false := by
  intro entry member
  simp only [words, List.mem_cons, List.not_mem_nil, or_false] at member
  rcases member with rfl | rfl | rfl | rfl | rfl | rfl <;> exact ⟨_, _, _, rfl, by decide⟩

theorem words_writeInt (n : Int) (rest : List Char) :
    (words.findSome? fun (word, value) => (afterWord word (writeInt n ++ rest)).map (value, ·)) =
      none := by
  rw [List.findSome?_eq_none_iff]
  rintro ⟨word, value⟩ member
  obtain ⟨d, e, letters, spelled, first, second⟩ := words_letters _ member
  obtain ⟨c, more, digits, digit⟩ := exists_digit n.natAbs
  have other : (d == c) = false := beq_eq_false_iff_ne.mpr (Ne.symm (isDigit_ne digit first))
  have another : (e == c) = false := beq_eq_false_iff_ne.mpr (Ne.symm (isDigit_ne digit second))
  have apart : List.isPrefixOf (d :: e :: letters) (writeInt n ++ rest) = false := by
    unfold writeInt
    rw [digits]
    split
    · simp only [List.cons_append, List.isPrefixOf_cons_cons, another, Bool.false_and, Bool.and_false]
    · simp only [List.cons_append, List.isPrefixOf_cons_cons, other, Bool.false_and]
  have absent : afterWord word (writeInt n ++ rest) = none := by
    rw [afterWord, spelled, apart]
    rfl
  dsimp only
  rw [absent]
  rfl

theorem readValue_writeInt {n : Int} (short : (Nat.toDigits 10 n.natAbs).length ≤ digitLimit)
    (stops : Stops rest) : readValue (fuel + 1) (writeInt n ++ rest) = .ok (.int n, rest) := by
  have number := readNumber_writeInt short stops
  have noWord := words_writeInt n rest
  obtain ⟨c, more, starts, other⟩ : ∃ c more, writeInt n ++ rest = c :: more ∧
      c ≠ '"' ∧ c ≠ '{' ∧ c ≠ '[' := by
    obtain ⟨d, digits, written, digit⟩ := exists_digit n.natAbs
    unfold writeInt
    split
    · exact ⟨'-', _, rfl, by decide⟩
    · exact ⟨d, digits ++ rest, by rw [written]; rfl, isDigit_ne digit (by decide),
        isDigit_ne digit (by decide), isDigit_ne digit (by decide)⟩
  rw [starts] at number noWord ⊢
  rw [readValue]
  · rw [noWord]
    exact number
  · exact List.cons_ne_nil _ _
  · rintro _ same
    exact other.1 (List.cons.inj same).1
  · rintro _ same
    exact other.2.1 (List.cons.inj same).1
  · rintro _ same
    exact other.2.2 (List.cons.inj same).1

/-- Wherever it is written, the value is read up to its end. -/
def ReadsBack (layout : Layout) (v : Json) : Prop :=
  ∀ level fuel rest, Stops rest → 2 * (writeAt layout level v).length ≤ fuel →
    readValue fuel (writeAt layout level v ++ rest) = .ok (v, rest)

theorem readItems_writeItems (blank : layout.Blank) {item : Json} {items read : List Json} {outer : Nat}
    (exact : ∀ v ∈ item :: items, Exact v) (reads : ∀ v ∈ item :: items, ReadsBack layout v)
    (enough : 2 * ((writeAt layout level item).length + (writeItems layout level items).length) < fuel) :
    readItems fuel read (writeAt layout level item ++ (writeItems layout level items ++
        (layout.lineBreak outer ++ ']' :: rest))) = .ok (.arr (read.reverse ++ item :: items), rest) := by
  induction items generalizing item read fuel with
  | nil =>
    obtain ⟨fuel, rfl⟩ := Nat.exists_eq_add_one.mpr (by omega : 0 < fuel)
    rw [writeItems, List.length_nil] at enough
    have here := reads item List.mem_cons_self level fuel (layout.lineBreak outer ++ ']' :: rest)
      (stops_lineBreak layout outer (by decide)) (by omega)
    have closes : skipBlanks (layout.lineBreak outer ++ ']' :: rest) = ']' :: rest := by
      rw [skipBlanks_append (lineBreak_blank blank outer), skipBlanks_cons (by decide)]
    rw [writeItems, List.nil_append, readItems, here]
    simp only [bind, Except.bind, closes]
    simp [pure, Except.pure]
  | cons next items ih =>
    obtain ⟨fuel, rfl⟩ := Nat.exists_eq_add_one.mpr (by omega : 0 < fuel)
    obtain ⟨blanks, separator, skipped⟩ := itemBreak_eq blank level
    have positive := writeAt_length_pos (exact item List.mem_cons_self) layout level
    rw [writeItems] at enough ⊢
    simp only [List.length_append] at enough
    simp only [List.append_assoc]
    generalize later : writeAt layout level next ++ (writeItems layout level items ++
      (layout.lineBreak outer ++ ']' :: rest)) = after
    have here := reads item List.mem_cons_self level fuel (layout.itemBreak level ++ after)
      (stops_itemBreak layout level _) (by omega)
    have comma : skipBlanks (layout.itemBreak level ++ after) = ',' :: (blanks ++ after) := by
      rw [separator, List.cons_append, skipBlanks_cons (by decide)]
    have value : skipBlanks (blanks ++ after) = after := by
      rw [skipBlanks_append skipped, ← later, skipBlanks_writeAt (exact next (by simp))]
    have rest : readItems fuel (item :: read) after =
        .ok (.arr ((item :: read).reverse ++ next :: items), rest) := by
      rw [← later]
      exact ih (fun v member => exact v (List.mem_cons_of_mem _ member))
        (fun v member => reads v (List.mem_cons_of_mem _ member)) (by omega)
    rw [readItems, here]
    simp only [bind, Except.bind, comma, value, rest]
    simp

/-- One member is read up to its end, where what follows decides how reading goes on. -/
theorem readMembers_member {key : String} {v : Json} {members : List (String × Json)}
    (fresh : key ∉ keys members) (exact : Exact v) (reads : ReadsBack layout v) (stops : Stops rest)
    (enough : 2 * (writeAt layout level v).length ≤ fuel) :
    readMembers (fuel + 1) members (writeString key ++ ':' :: ' ' :: (writeAt layout level v ++ rest)) =
      match skipBlanks rest with
      | '}' :: rest => .ok (.obj (members ++ [(key, v)]), rest)
      | ',' :: rest => readMembers fuel (members ++ [(key, v)]) (skipBlanks rest)
      | _ => .error .expectingComma := by
  have here := reads level fuel rest stops enough
  have colon : skipBlanks (':' :: ' ' :: (writeAt layout level v ++ rest)) =
      ':' :: ' ' :: (writeAt layout level v ++ rest) := skipBlanks_cons (by decide) _
  have value : skipBlanks (' ' :: (writeAt layout level v ++ rest)) = writeAt layout level v ++ rest := by
    rw [← List.singleton_append, skipBlanks_append (by simp [isBlank]), skipBlanks_writeAt exact]
  rw [writeString_eq, readMembers, readString_writeString]
  simp only [bind, Except.bind, colon, value, here, put_of_not_mem fresh]
  split <;> simp_all [pure, Except.pure, throw, throwThe, MonadExceptOf.throw]

theorem not_mem_keys_of_nodup {key : String} {v : Json} {before after : List (String × Json)}
    (distinct : (keys (before ++ (key, v) :: after)).Nodup) : key ∉ keys before := by
  intro known
  rw [keys, List.map_append, List.nodup_append] at distinct
  exact distinct.2.2 key known key List.mem_cons_self rfl

theorem readMembers_writeMembers (blank : layout.Blank) {key : String} {v : Json}
    {members read : List (String × Json)} {outer : Nat}
    (distinct : (keys (read ++ (key, v) :: members)).Nodup)
    (exact : ∀ entry ∈ (key, v) :: members, Exact entry.2)
    (reads : ∀ entry ∈ (key, v) :: members, ReadsBack layout entry.2)
    (enough : 2 * ((writeAt layout level v).length + (writeMembers layout level members).length) < fuel) :
    readMembers fuel read (writeString key ++ ':' :: ' ' :: (writeAt layout level v ++
        (writeMembers layout level members ++ (layout.lineBreak outer ++ '}' :: rest)))) =
      .ok (.obj (read ++ (key, v) :: members), rest) := by
  induction members generalizing key v read fuel with
  | nil =>
    obtain ⟨fuel, rfl⟩ := Nat.exists_eq_add_one.mpr (by omega : 0 < fuel)
    have exactHere : Exact v := exact _ List.mem_cons_self
    have readsHere : ReadsBack layout v := reads _ List.mem_cons_self
    have closes : skipBlanks (layout.lineBreak outer ++ '}' :: rest) = '}' :: rest := by
      rw [skipBlanks_append (lineBreak_blank blank outer), skipBlanks_cons (by decide)]
    rw [writeMembers, List.nil_append, readMembers_member (not_mem_keys_of_nodup distinct) exactHere
      readsHere (stops_lineBreak layout outer (by decide)) (by omega), closes]
    rfl
  | cons next members ih =>
    obtain ⟨name, value⟩ := next
    obtain ⟨fuel, rfl⟩ := Nat.exists_eq_add_one.mpr (by omega : 0 < fuel)
    obtain ⟨blanks, separator, skipped⟩ := itemBreak_eq blank level
    have exactHere : Exact v := exact _ List.mem_cons_self
    have readsHere : ReadsBack layout v := reads _ List.mem_cons_self
    have positive := writeAt_length_pos exactHere layout level
    rw [writeMembers] at enough ⊢
    simp only [List.length_append] at enough
    have whole : layout.itemBreak level ++ writeString name ++ [':', ' '] ++ writeAt layout level value ++
        writeMembers layout level members ++ (layout.lineBreak outer ++ '}' :: rest) =
        layout.itemBreak level ++ (writeString name ++ ':' :: ' ' :: (writeAt layout level value ++
          (writeMembers layout level members ++ (layout.lineBreak outer ++ '}' :: rest)))) := by
      simp
    rw [whole]
    generalize later : writeString name ++ ':' :: ' ' :: (writeAt layout level value ++
      (writeMembers layout level members ++ (layout.lineBreak outer ++ '}' :: rest))) = after
    have starts : skipBlanks (blanks ++ after) = after := by
      rw [skipBlanks_append skipped, ← later, writeString_eq, skipBlanks_cons (by decide)]
    have rest : readMembers fuel (read ++ [(key, v)]) after =
        .ok (.obj (read ++ [(key, v)] ++ (name, value) :: members), rest) := by
      rw [← later]
      exact ih (by rwa [List.append_assoc]) (fun entry member => exact entry (List.mem_cons_of_mem _ member))
        (fun entry member => reads entry (List.mem_cons_of_mem _ member)) (by omega)
    rw [readMembers_member (not_mem_keys_of_nodup distinct) exactHere readsHere
      (stops_itemBreak layout level _) (by omega), separator, List.cons_append,
      skipBlanks_cons (by decide)]
    change readMembers fuel (read ++ [(key, v)]) (skipBlanks (blanks ++ after)) = _
    rw [starts, rest, List.append_assoc, List.singleton_append]

theorem readsBack_of_succ {v : Json} (exact : Exact v)
    (reads : ∀ level fuel rest, Stops rest → 2 * (writeAt layout level v).length ≤ fuel + 1 →
      readValue (fuel + 1) (writeAt layout level v ++ rest) = .ok (v, rest)) : ReadsBack layout v := by
  intro level fuel rest stops enough
  have positive := writeAt_length_pos exact layout level
  obtain ⟨fuel, rfl⟩ := Nat.exists_eq_add_one.mpr (by omega : 0 < fuel)
  exact reads level fuel rest stops enough

theorem readsBack_arr (blank : layout.Blank) {items : List Json} (exact : ∀ item ∈ items, Exact item)
    (reads : ∀ item ∈ items, ReadsBack layout item) : ReadsBack layout (.arr items) := by
  refine readsBack_of_succ (.arr exact) fun level fuel rest stops enough => ?_
  cases items with
  | nil => rfl
  | cons item items =>
    have opened : writeAt layout level (.arr (item :: items)) ++ rest = '[' ::
        (layout.lineBreak (level + 1) ++ (writeAt layout (level + 1) item ++
          (writeItems layout (level + 1) items ++ (layout.lineBreak level ++ ']' :: rest)))) := by
      simp [writeAt]
    obtain ⟨c, more, starts, -, notClosed, -⟩ :=
      writeAt_head (exact item List.mem_cons_self) layout (level + 1)
    have room : 2 * ((writeAt layout (level + 1) item).length +
        (writeItems layout (level + 1) items).length) < fuel := by
      simp only [writeAt, List.length_append, List.length_cons, List.length_nil] at enough
      omega
    have items : readItems fuel [] (writeAt layout (level + 1) item ++
        (writeItems layout (level + 1) items ++ (layout.lineBreak level ++ ']' :: rest))) =
        .ok (.arr (item :: items), rest) := readItems_writeItems blank exact reads room
    rw [opened, readValue, skipBlanks_append (lineBreak_blank blank (level + 1)),
      skipBlanks_writeAt (exact item List.mem_cons_self)]
    rw [starts, List.cons_append] at items ⊢
    split
    · rename_i same
      exact absurd (List.cons.inj same).1 notClosed
    · exact items

theorem readsBack_obj (blank : layout.Blank) {members : List (String × Json)}
    (distinct : (keys members).Nodup) (exact : ∀ entry ∈ members, Exact entry.2)
    (reads : ∀ entry ∈ members, ReadsBack layout entry.2) : ReadsBack layout (.obj members) := by
  refine readsBack_of_succ (.obj distinct exact) fun level fuel rest stops enough => ?_
  cases members with
  | nil => rfl
  | cons entry members =>
    obtain ⟨key, v⟩ := entry
    have opened : writeAt layout level (.obj ((key, v) :: members)) ++ rest = '{' ::
        (layout.lineBreak (level + 1) ++ (writeString key ++ ':' :: ' ' ::
          (writeAt layout (level + 1) v ++ (writeMembers layout (level + 1) members ++
            (layout.lineBreak level ++ '}' :: rest))))) := by
      simp [writeAt]
    have room : 2 * ((writeAt layout (level + 1) v).length +
        (writeMembers layout (level + 1) members).length) < fuel := by
      simp only [writeAt, List.length_append, List.length_cons, List.length_nil] at enough
      omega
    have members : readMembers fuel [] (writeString key ++ ':' :: ' ' ::
        (writeAt layout (level + 1) v ++ (writeMembers layout (level + 1) members ++
          (layout.lineBreak level ++ '}' :: rest)))) = .ok (.obj ((key, v) :: members), rest) :=
      readMembers_writeMembers blank distinct exact reads room
    rw [opened, readValue, skipBlanks_append (lineBreak_blank blank (level + 1))]
    rw [writeString_eq] at members ⊢
    rw [skipBlanks_cons (by decide)]
    exact members

/-- A written value is read back, with what follows it left. -/
theorem Exact.readsBack {v : Json} (exact : Exact v) (blank : layout.Blank) : ReadsBack layout v := by
  induction exact with
  | null =>
    refine readsBack_of_succ .null fun level fuel rest stops enough => ?_
    rfl
  | bool value =>
    refine readsBack_of_succ (.bool value) fun level fuel rest stops enough => ?_
    cases value <;> rfl
  | int short =>
    refine readsBack_of_succ (.int short) fun level fuel rest stops enough => ?_
    rw [writeAt]
    exact readValue_writeInt short stops
  | str text =>
    refine readsBack_of_succ (.str text) fun level fuel rest stops enough => ?_
    rw [writeAt, writeString_eq, readValue, readString_writeString]
    rfl
  | arr each ih => exact readsBack_arr blank each ih
  | obj distinct each ih => exact readsBack_obj blank distinct each ih

/-- Reading undoes writing. -/
theorem read_write {v : Json} (exact : Exact v) (blank : layout.Blank) :
    read (write layout v) = .ok v := by
  obtain ⟨c, more, starts, -, -, noMark⟩ := writeAt_head exact layout 0
  have value : readValue (2 * (writeAt layout 0 v).length + 1) (writeAt layout 0 v) = .ok (v, []) := by
    have whole := exact.readsBack blank 0 (2 * (writeAt layout 0 v).length + 1) []
      (fun _ none => nomatch none) (by omega)
    rwa [List.append_nil] at whole
  have start : skipBlanks (writeAt layout 0 v) = writeAt layout 0 v := by
    have whole := skipBlanks_writeAt exact layout 0 []
    rwa [List.append_nil] at whole
  rw [read, write, String.toList_ofList]
  unfold readAll
  split
  · rename_i same
    rw [starts] at same
    exact absurd (List.cons.inj same).1 noMark
  · rw [start, value]
    rfl

end GoIdl.Json
