import GoIdl.Proofs.Tag.Grammar
import GoIdl.Proofs.Text.Utf8
import Mathlib.Data.Nat.Digits.Defs

/-!
# What literals stand for

An interpreted literal is a row of parts, each of which writes a character or a single byte; its text
is the one that all these bytes encode. A byte is read as the character with its number, so that the
text is read exactly where every byte that is written as a number is ASCII. A raw literal is read as
what stands in it without carriage returns.
-/

namespace GoIdl.Syntax

variable {digits rest : List Char} {n : Nat}

/-! ### The grammar of literals -/

/-- The digit of a value in a base; a letter may be of either case. -/
def IsDigit (base value : Nat) (c : Char) : Prop :=
  value < base ∧ (c = value.digitChar ∨ c = value.digitChar.toUpper)

instance {base value : Nat} {c : Char} : Decidable (IsDigit base value c) :=
  inferInstanceAs (Decidable (_ ∧ _))

/-- The digits write the number in the base, the highest first. -/
def Writes (base n : Nat) (digits : List Char) : Prop :=
  ∃ values, List.Forall₂ (IsDigit base) values digits ∧ n = Nat.ofDigits base values.reverse

/-- A part of an interpreted literal by what it writes. -/
inductive Part where
  | character (c : Char)
  | byte (b : UInt8)

namespace Part

def bytes : Part → List UInt8
  | character c => String.utf8EncodeChar c
  | byte b => [b]

/-- What a backslash and a letter write. -/
def letters : List (Char × Char) :=
  [('a', '\x07'), ('b', '\x08'), ('f', '\x0c'), ('n', '\n'), ('r', '\r'), ('t', '\t'), ('v', '\x0b'),
   ('\\', '\\'), ('"', '"')]

/-- The spellings of a part. -/
inductive Spelled : Part → List Char → Prop where
  | plain {c : Char} (quote : c ≠ '"') (backslash : c ≠ '\\') (feed : c ≠ '\n') :
      Spelled (character c) [c]
  | letter {l c : Char} (known : (l, c) ∈ letters) : Spelled (character c) ['\\', l]
  | hex {b : UInt8} {digits : List Char} (two : digits.length = 2) (writes : Writes 16 b.toNat digits) :
      Spelled (byte b) ('\\' :: 'x' :: digits)
  | octal {b : UInt8} {digits : List Char} (three : digits.length = 3)
      (writes : Writes 8 b.toNat digits) : Spelled (byte b) ('\\' :: digits)
  | short {c : Char} {digits : List Char} (four : digits.length = 4)
      (writes : Writes 16 c.toNat digits) : Spelled (character c) ('\\' :: 'u' :: digits)
  | long {c : Char} {digits : List Char} (eight : digits.length = 8)
      (writes : Writes 16 c.toNat digits) : Spelled (character c) ('\\' :: 'U' :: digits)

/-- The character that a part is read as. -/
def read : Part → Char
  | character c => c
  | byte b => Char.ofNat b.toNat

end Part

/-- The literal spells these parts between double quotes. -/
def Interpreted (literal : String) (parts : List Part) : Prop :=
  ∃ pieces, List.Forall₂ Part.Spelled parts pieces ∧
    literal.toList = '"' :: (pieces.flatten ++ ['"'])

/-! ### Numbers -/

theorem ofDigits_reverse (base : Nat) (values : List Nat) :
    Nat.ofDigits base values.reverse = values.foldl (fun n v => v + base * n) 0 := by
  rw [Nat.ofDigits_eq_foldr, List.foldr_reverse]
  rfl

theorem hexValue_of_isDigit {value : Nat} {c : Char} (digit : IsDigit 16 value c) :
    Text.hexValue c = some value := by
  have all : ∀ v < 16, Text.hexValue v.digitChar = some v ∧
      Text.hexValue v.digitChar.toUpper = some v := by
    decide
  obtain ⟨small, rfl | rfl⟩ := digit
  · exact (all value small).1
  · exact (all value small).2

theorem hexNumber_of_writes (writes : Writes 16 n digits) : Text.hexNumber digits = some n := by
  obtain ⟨values, each, rfl⟩ := writes
  rw [ofDigits_reverse, Text.hexNumber]
  generalize 0 = start
  induction each generalizing start with
  | nil => rfl
  | cons digit _ ih =>
    rw [List.foldlM_cons, hexValue_of_isDigit digit, List.foldl_cons, ← ih, Nat.add_comm, Nat.mul_comm]
    rfl

theorem hexEscape_of_writes (writes : Writes 16 n digits) (rest : List Char) :
    hexEscape digits.length (digits ++ rest) = some (n, digits.length) := by
  rw [hexEscape]
  simp only [List.take_left, Nat.lt_irrefl, if_false, hexNumber_of_writes writes, Option.map_some]

theorem octal_of_isDigit {value : Nat} {c : Char} (digit : IsDigit 8 value c) :
    isOctal c = true ∧ c.toNat - '0'.toNat = value ∧ simpleEscape c = none ∧ c ≠ 'x' ∧ c ≠ 'u' ∧
      c ≠ 'U' := by
  have all : ∀ v < 8, v.digitChar.toUpper = v.digitChar ∧ isOctal v.digitChar = true ∧
      v.digitChar.toNat - '0'.toNat = v ∧ simpleEscape v.digitChar = none ∧ v.digitChar ≠ 'x' ∧
      v.digitChar ≠ 'u' ∧ v.digitChar ≠ 'U' := by
    decide
  obtain ⟨small, same⟩ := digit
  rw [(all value small).1, or_self] at same
  exact same ▸ (all value small).2

/-! ### Escapes -/

theorem escape?_octal (three : digits.length = 3) (writes : Writes 8 n digits) (rest : List Char) :
    escape? (digits ++ rest) = some (n, 3) := by
  obtain ⟨values, each, rfl⟩ := writes
  match digits, three with
  | [a, b, c], _ =>
    obtain _ | ⟨first, _ | ⟨second, _ | ⟨third, _ | _⟩⟩⟩ := each
    obtain ⟨octal, value, plain, x, u, U⟩ := octal_of_isDigit first
    obtain ⟨octal', value', -⟩ := octal_of_isDigit second
    obtain ⟨octal'', value'', -⟩ := octal_of_isDigit third
    rw [ofDigits_reverse]
    simp only [escape?, List.cons_append, List.nil_append, plain, if_neg x, if_neg u, if_neg U, octal,
      octal', octal'', Bool.and_self, if_true, List.foldl_cons, List.foldl_nil, value, value', value'']
    congr 2
    omega

theorem charOfNumber_toNat (c : Char) : charOfNumber c.toNat = .ok c := by
  have valid := Text.toNat_valid c
  rw [charOfNumber, if_neg (by omega), if_neg (by omega), Char.ofNat_toNat]

theorem charOfNumber_byte (b : UInt8) : charOfNumber b.toNat = .ok (Char.ofNat b.toNat) := by
  have small := b.toNat_lt
  rw [charOfNumber, if_neg (by omega), if_neg (by omega)]

/-- An escape is resolved where it stands, and reading goes on behind it. -/
theorem resolveEscapes_escape (body : List Char) {c : Char}
    (found : escape? (body ++ rest) = some (n, body.length)) (number : charOfNumber n = .ok c) :
    resolveEscapes 0 ('\\' :: body ++ rest) = (resolveEscapes 0 rest).map (c :: ·) := by
  rw [List.cons_append, resolveEscapes, if_pos rfl, found]
  dsimp only
  rw [number, Tag.resolveEscapes_skip]
  cases resolveEscapes 0 rest <;> rfl

theorem Part.Spelled.resolve {part : Part} {piece : List Char} (spelled : part.Spelled piece)
    (rest : List Char) :
    resolveEscapes 0 (piece ++ rest) = (resolveEscapes 0 rest).map (part.read :: ·) := by
  cases spelled with
  | plain quote backslash feed =>
    rw [List.singleton_append, resolveEscapes, if_neg backslash]
    rfl
  | @letter l c known =>
    have simple : ∀ entry ∈ letters, simpleEscape entry.1 = some entry.2 := by decide
    refine resolveEscapes_escape [l] ?_ (charOfNumber_toNat c)
    simp only [List.singleton_append, escape?, simple _ known]
    rfl
  | @hex b digits two writes =>
    refine resolveEscapes_escape ('x' :: digits) ?_ (charOfNumber_byte b)
    have number := hexEscape_of_writes writes rest
    rw [two] at number
    simp [escape?, simpleEscape, number, two]
  | @octal b digits three writes =>
    refine resolveEscapes_escape digits ?_ (charOfNumber_byte b)
    rw [three]
    exact escape?_octal three writes rest
  | @short c digits four writes =>
    refine resolveEscapes_escape ('u' :: digits) ?_ (charOfNumber_toNat c)
    have number := hexEscape_of_writes writes rest
    rw [four] at number
    simp [escape?, simpleEscape, number, four]
  | @long c digits eight writes =>
    refine resolveEscapes_escape ('U' :: digits) ?_ (charOfNumber_toNat c)
    have number := hexEscape_of_writes writes rest
    rw [eight] at number
    simp [escape?, simpleEscape, number, eight]

/-! ### Literals -/

variable {literal : String} {parts : List Part}

theorem resolveEscapes_pieces {pieces : List (List Char)}
    (spelled : List.Forall₂ Part.Spelled parts pieces) :
    resolveEscapes 0 pieces.flatten = .ok (parts.map Part.read) := by
  induction spelled with
  | nil => rfl
  | cons first _ ih =>
    rw [List.flatten_cons, first.resolve, ih]
    rfl

theorem isBetween_quoted (mark : Char) (body : List Char) :
    isBetween mark (mark :: (body ++ [mark])) = true := by
  simp [isBetween, List.getLast?_cons]

theorem inner_quoted (mark : Char) (body : List Char) : inner (mark :: (body ++ [mark])) = body := by
  simp [inner]

theorem unquote_interpreted (interpreted : Interpreted literal parts) :
    unquote literal = .ok (String.ofList (parts.map Part.read)) := by
  obtain ⟨pieces, spelled, whole⟩ := interpreted
  have notRaw : isBetween '`' ('"' :: (pieces.flatten ++ ['"'])) = false := by simp [isBetween]
  rw [unquote, whole, unquoteChars, notRaw, isBetween_quoted, inner_quoted, resolveEscapes_pieces spelled]
  rfl

theorem unquote_raw {body : List Char} (whole : literal.toList = '`' :: (body ++ ['`'])) :
    unquote literal = .ok (String.ofList (body.filter (· != '\r'))) := by
  rw [unquote, whole, unquoteChars, isBetween_quoted, inner_quoted]
  rfl

/-! ### Bytes -/

/-- A byte that is no character of its own. -/
def Part.isWide : Part → Bool
  | character _ => false
  | byte b => decide (0x80 ≤ b)

theorem Part.encode_read {part : Part} (narrow : part.isWide = false) :
    Text.encodeChar part.read = part.bytes := by
  cases part with
  | character c => exact Text.encodeChar_eq c
  | byte b =>
    have small : b.toNat < 0x80 := by simpa [isWide, UInt8.le_iff_toNat_le] using narrow
    simp only [read, bytes, Text.encodeChar, Text.toNat_ofNat (n := b.toNat) (by omega), if_pos small,
      UInt8.ofNat_toNat]

theorem Part.length_encode_read (part : Part) :
    (Text.encodeChar part.read).length = part.bytes.length + if part.isWide then 1 else 0 := by
  cases wide : part.isWide with
  | false => rw [Part.encode_read wide]; rfl
  | true =>
    cases part with
    | character c => cases wide
    | byte b =>
      have large : 0x80 ≤ b.toNat := by simpa [isWide, UInt8.le_iff_toNat_le] using wide
      have small := b.toNat_lt
      simp only [read, bytes, Text.encodeChar, Text.toNat_ofNat (n := b.toNat) (by omega)]
      rw [if_neg (by omega), if_pos (by omega)]
      rfl

/-- Every byte that is no character of its own is read as a character of two bytes. -/
theorem length_encode_read (parts : List Part) :
    (Text.encode (parts.map Part.read)).length =
      (parts.flatMap Part.bytes).length + parts.countP Part.isWide := by
  induction parts with
  | nil => rfl
  | cons part parts ih =>
    have whole : Text.encode ((part :: parts).map Part.read) =
        Text.encodeChar part.read ++ Text.encode (parts.map Part.read) := rfl
    rw [whole, List.length_append, ih, part.length_encode_read, List.flatMap_cons, List.length_append,
      List.countP_cons]
    omega

theorem encode_read (narrow : ∀ part ∈ parts, part.isWide = false) :
    Text.encode (parts.map Part.read) = parts.flatMap Part.bytes := by
  rw [Text.encode, List.flatMap_map]
  exact List.flatMap_congr fun part member => Part.encode_read (narrow part member)

/-- The text that the bytes of a literal encode is what the literal is read as, exactly if no byte
beyond ASCII is written as a number. -/
theorem unquote_eq_ok_iff (interpreted : Interpreted literal parts) {text : String}
    (means : text.toList.flatMap String.utf8EncodeChar = parts.flatMap Part.bytes) :
    unquote literal = .ok text ↔ ∀ b, .byte b ∈ parts → b < 0x80 := by
  have narrow : (∀ b, .byte b ∈ parts → b < 0x80) ↔ ∀ part ∈ parts, part.isWide = false := by
    constructor
    · intro ascii part member
      cases part with
      | character c => rfl
      | byte b => simpa [Part.isWide] using ascii b member
    · intro narrow b member
      simpa [Part.isWide] using narrow _ member
  rw [← Text.encode_eq] at means
  rw [unquote_interpreted interpreted, narrow, Except.ok.injEq]
  constructor
  · rintro rfl
    rw [String.toList_ofList] at means
    have lengths := length_encode_read parts
    rw [means, Nat.left_eq_add, List.countP_eq_zero] at lengths
    simpa using lengths
  · intro narrow
    rw [← encode_read narrow] at means
    rw [← Text.encode_injective means, String.ofList_toList]

/-- What literals are read as. An interpreted one is read part by part, a byte as the character with
its number; that is the text whose bytes it writes, if there is one, exactly if none of the bytes that
are written as numbers lies beyond ASCII. A raw one is read without carriage returns. -/
theorem unquote_literals (literal : String) :
    (∀ parts, Interpreted literal parts →
      unquote literal = .ok (String.ofList (parts.map Part.read)) ∧
      ∀ text : String, text.toList.flatMap String.utf8EncodeChar = parts.flatMap Part.bytes →
        (unquote literal = .ok text ↔ ∀ b, .byte b ∈ parts → b < 0x80)) ∧
    ∀ body, literal.toList = '`' :: (body ++ ['`']) →
      unquote literal = .ok (String.ofList (body.filter (· != '\r'))) :=
  ⟨fun _ interpreted => ⟨unquote_interpreted interpreted, fun _ => unquote_eq_ok_iff interpreted⟩,
    fun _ => unquote_raw⟩

/-- An escape for a byte and one for a character beyond ASCII. -/
theorem unquote_literals_mixed :
    Interpreted "\"\\x41\\n\\u00e9\"" [.byte 0x41, .character '\n', .character 'é'] ∧
      unquote "\"\\x41\\n\\u00e9\"" = .ok "A\né" := by
  have spelled : Interpreted "\"\\x41\\n\\u00e9\"" [.byte 0x41, .character '\n', .character 'é'] := by
    refine ⟨["\\x41".toList, "\\n".toList, "\\u00e9".toList],
      .cons ?_ (.cons ?_ (.cons ?_ .nil)), by decide⟩
    · exact .hex rfl ⟨[4, 1], .cons (by decide) (.cons (by decide) .nil), by decide⟩
    · exact .letter (by decide)
    · exact .short rfl ⟨[0, 0, 14, 9],
        .cons (by decide) (.cons (by decide) (.cons (by decide) (.cons (by decide) .nil))), by decide⟩
  refine ⟨spelled, (((unquote_literals _).1 _ spelled).2 "A\né" (by decide)).mpr ?_⟩
  simp

/-- Two bytes that are one character are read as two characters. -/
theorem bytes_misread : ¬ ∀ literal parts text, Interpreted literal parts →
    text.toList.flatMap String.utf8EncodeChar = parts.flatMap Part.bytes → unquote literal = .ok text := by
  intro agrees
  have spelled : Interpreted "\"\\xc3\\xa9\"" [.byte 0xc3, .byte 0xa9] := by
    refine ⟨["\\xc3".toList, "\\xa9".toList], .cons ?_ (.cons ?_ .nil), by decide⟩
    · exact .hex rfl ⟨[12, 3], .cons (by decide) (.cons (by decide) .nil), by decide⟩
    · exact .hex rfl ⟨[10, 9], .cons (by decide) (.cons (by decide) .nil), by decide⟩
  have read := agrees _ _ "é" spelled (by decide)
  rw [unquote_eq_ok_iff spelled (by decide)] at read
  exact absurd (read 0xc3 (by simp)) (by decide)

end GoIdl.Syntax
