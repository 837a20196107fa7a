import GoIdl.Package.Loading
import GoIdl.Proofs.Syntax.Standing
import GoIdl.Proofs.Text.Utf8

/-!
# Files that are no text

A file that is no text is refused at its first byte that belongs to no character. The line is the one
that a syntax error there would have; the column counts the bytes before it on its line, and so it is
that of a syntax error only where the line is ASCII up to there.
-/

namespace GoIdl

/-! ### Lines of bytes -/

namespace Text

theorem feed_not_mem_encodeChar {c : Char} (other : c ≠ '\n') : 10 ∉ encodeChar c := by
  intro member
  rcases encodeChar_cases c with ⟨small, single⟩ | ⟨-, -, beyond⟩
  · rw [single, List.mem_singleton] at member
    have number : (10 : UInt8).toNat = c.toNat := by rw [member, toNat_byte (by omega)]
    exact other (Char.toNat_inj.mp number.symm)
  · exact absurd (beyond 10 member) (by decide)

theorem count_encode (text : List Char) : (encode text).count 10 = text.count '\n' := by
  induction text with
  | nil => rfl
  | cons c text ih =>
    have whole : encode (c :: text) = encodeChar c ++ encode text := rfl
    rw [whole, List.count_append, ih]
    by_cases feed : c = '\n'
    · subst feed
      rw [List.count_cons_self, Nat.add_comm]
      rfl
    · rw [List.count_eq_zero.mpr (feed_not_mem_encodeChar feed), List.count_cons_of_ne feed, Nat.zero_add]

/-- What stands behind the last line feed of bytes. -/
def bytesUpTo (bytes : List UInt8) : List UInt8 := (bytes.reverse.takeWhile (· != 10)).reverse

theorem bytesUpTo_append (bytes : List UInt8) {more : List UInt8} (single : 10 ∉ more) :
    bytesUpTo (bytes ++ more) = bytesUpTo bytes ++ more := by
  have passes : ∀ b ∈ more.reverse, (b != 10) = true := by
    intro b member
    rw [bne_iff_ne]
    rintro rfl
    exact single (List.mem_reverse.mp member)
  rw [bytesUpTo, bytesUpTo, List.reverse_append, List.takeWhile_append_of_pos passes, List.reverse_append,
    List.reverse_reverse]

theorem bytesUpTo_encode (text : List Char) :
    bytesUpTo (encode text) = encode (Syntax.lineUpTo text) := by
  induction text using List.reverseRecOn with
  | nil => rfl
  | append_singleton text c ih =>
    rw [encode_append, Syntax.lineUpTo_snoc]
    by_cases feed : c = '\n'
    · subst feed
      rw [if_pos rfl, bytesUpTo, List.reverse_append]
      rfl
    · have whole : encode [c] = encodeChar c := List.append_nil _
      rw [if_neg feed, whole, bytesUpTo_append _ (feed_not_mem_encodeChar feed), ih, encode_append, whole]

end Text

/-! ### Columns -/

namespace Syntax

theorem lineUpTo_cons_of_mem {rest : List Char} (feed : '\n' ∈ rest) (c : Char) :
    lineUpTo (c :: rest) = lineUpTo rest := by
  rw [lineUpTo, lineUpTo, List.reverse_cons, List.takeWhile_append, if_neg]
  intro whole
  have passes := (List.takeWhile_prefix (· != '\n')).eq_of_length whole
  have other := List.takeWhile_eq_self_iff.mp passes '\n' (List.mem_reverse.mpr feed)
  cases other

/-- The bytes and the characters of a line are as many exactly if it is ASCII; the mark at the start
of the text is no character of its line. -/
theorem column_eq_iff (before : List Char) :
    (Text.encode (lineUpTo before)).length + 1 = (Position.behind (Parser.withoutMark before)).column ↔
      ∀ c ∈ lineUpTo before, c.toNat < 0x80 := by
  rw [Position.behind, Nat.add_right_cancel_iff]
  unfold Parser.withoutMark
  split
  · rename_i rest
    by_cases feed : '\n' ∈ rest
    · rw [lineUpTo_cons_of_mem feed]
      exact (Text.length_encode _).2
    · have whole : ∀ {text : List Char}, '\n' ∉ text → lineUpTo text = text := fun single =>
        lineUpTo_append [] single
      have longer := (Text.length_encode rest).1
      have mark : Text.encode ('\ufeff' :: rest) = [0xef, 0xbb, 0xbf] ++ Text.encode rest := rfl
      rw [whole feed, whole (by simpa using feed), mark, List.length_append, List.forall_mem_cons]
      constructor
      · intro same
        simp only [List.length_cons] at same
        omega
      · rintro ⟨ascii, -⟩
        exact absurd ascii (by decide)
  · exact (Text.length_encode _).2

end Syntax

/-! ### Undecodable files -/

namespace Loading

open Syntax (Position lineUpTo)
open Syntax.Parser (withoutMark)

variable {bytes : List UInt8} {path : Disk.Path} {disk : Disk}

theorem decodingFailure_behind (path : Disk.Path) (before : List Char) (first : UInt8) (rest : List UInt8) :
    decodingFailure path (Text.encode before ++ first :: rest) (Text.encode before).length =
      .definition {
        cause := .invalidUtf8 path.text first.toNat (Text.encode before).length
        location := some ⟨path.text, (Text.encode before).count 10 + 1,
          (Text.encode (lineUpTo before)).length + 1⟩ } := by
  have line : ((Text.encode before).reverse.takeWhile (· != 10)).length =
      (Text.encode (lineUpTo before)).length := by
    rw [← Text.bytesUpTo_encode, Text.bytesUpTo, List.length_reverse]
  rw [decodingFailure, List.take_left, List.drop_left, line]
  rfl

/-- The first byte that belongs to no character: a text stands before it, and no character starts
with it. -/
structure FirstUndecodable (bytes : List UInt8) (before : List Char) (first : UInt8)
    (rest : List UInt8) : Prop where
  whole : bytes = before.flatMap String.utf8EncodeChar ++ first :: rest
  stops : ∀ c, ¬ String.utf8EncodeChar c <+: first :: rest

variable {before : List Char} {first : UInt8} {rest : List UInt8}

theorem FirstUndecodable.unique {before' : List Char} {first' : UInt8} {rest' : List UInt8}
    (here : FirstUndecodable bytes before first rest)
    (there : FirstUndecodable bytes before' first' rest') :
    before = before' ∧ first = first' ∧ rest = rest' := by
  obtain ⟨rfl, stops⟩ := here
  obtain ⟨whole, stops'⟩ := there
  induction before generalizing before' with
  | nil =>
    cases before' with
    | nil => exact ⟨rfl, List.cons.inj whole⟩
    | cons c before' =>
      refine absurd ⟨before'.flatMap String.utf8EncodeChar ++ first' :: rest', ?_⟩ (stops c)
      rw [← List.append_assoc, ← List.flatMap_cons, ← whole]
      rfl
  | cons c before ih =>
    cases before' with
    | nil =>
      refine absurd ⟨before.flatMap String.utf8EncodeChar ++ first :: rest, ?_⟩ (stops' c)
      rw [← List.append_assoc, ← List.flatMap_cons, whole]
      rfl
    | cons d before' =>
      -- Both start with a character, and decoding tells which one.
      rw [List.flatMap_cons, List.flatMap_cons, List.append_assoc, List.append_assoc] at whole
      have read := Text.decodeChar_encodeChar c (before.flatMap String.utf8EncodeChar ++ first :: rest)
      rw [Text.encodeChar_eq, whole, ← Text.encodeChar_eq, Text.decodeChar_encodeChar] at read
      obtain ⟨rfl, later⟩ := Prod.mk.inj (Except.ok.inj read)
      obtain ⟨rfl, same⟩ := ih later.symm
      exact ⟨rfl, same⟩

/-- A file that is no text is refused at the first byte that belongs to no character. The line is that
of a syntax error there, and so is the column exactly if the line is ASCII up to there: it counts
bytes, those of a byte order mark as well. -/
theorem readFile_undecodable (read : disk.readBytes path = .ok bytes)
    (invalid : ∀ text : List Char, bytes ≠ text.flatMap String.utf8EncodeChar) :
    (∃ before first rest, FirstUndecodable bytes before first rest) ∧
    ∀ before first rest, FirstUndecodable bytes before first rest → ∃ pos : Position,
      readFile disk path = .error (.definition {
        cause := .invalidUtf8 path.text first.toNat (before.flatMap String.utf8EncodeChar).length
        location := some (pos.inFile path.text) }) ∧
      pos.line = (before.flatMap String.utf8EncodeChar).count 10 + 1 ∧
      pos.column = ((lineUpTo before).flatMap String.utf8EncodeChar).length + 1 ∧
      pos.line = (Position.behind (withoutMark before)).line ∧
      (pos.column = (Position.behind (withoutMark before)).column ↔
        ∀ c ∈ lineUpTo before, c.toNat < 0x80) := by
  rcases Text.decode_spec bytes with
    ⟨text, -, whole⟩ | ⟨fault, before, rest, covered, whole, some, stops, failed⟩
  · exact absurd (whole.trans (Text.encode_eq text)) (invalid text)
  obtain ⟨first, rest, rfl⟩ := List.exists_cons_of_ne_nil some
  have here : FirstUndecodable bytes before first rest := ⟨Text.encode_eq before ▸ whole, stops⟩
  refine ⟨⟨before, first, rest, here⟩, fun _ _ _ there => ?_⟩
  obtain ⟨rfl, rfl, rfl⟩ := here.unique there
  simp only [← Text.encode_eq]
  refine ⟨⟨(Text.encode before).count 10 + 1, (Text.encode (lineUpTo before)).length + 1⟩, ?_, rfl, rfl,
    ?_, Syntax.column_eq_iff before⟩
  · have refused : readText disk path =
        .error (decodingFailure path bytes (Text.encode before).length) := by
      rw [readText, read]
      dsimp only
      rw [failed]
    rw [readFile, refused, whole, decodingFailure_behind]
    rfl
  · rw [Text.count_encode]
    unfold withoutMark
    split
    · exact congrArg (· + 1) (List.count_cons_of_ne (by decide))
    · rfl

/-- An umlaut in another encoding. -/
theorem readFile_undecodable_latin :
    readFile ⟨[("a.go", .file [0x0a, 0x63, 0xfc, 0x72])], []⟩ ⟨.relative, ["a.go"]⟩ =
      .error (.definition {
        cause := .invalidUtf8 (Disk.Path.text ⟨.relative, ["a.go"]⟩) 0xfc 2
        location := some ⟨Disk.Path.text ⟨.relative, ["a.go"]⟩, 2, 2⟩ }) := by
  have invalid : ∀ text : List Char, [0x0a, 0x63, 0xfc, 0x72] ≠ text.flatMap String.utf8EncodeChar := by
    intro text same
    have decoded := Text.decode_encode text
    rw [Text.encode_eq, ← same] at decoded
    cases decoded
  have read : Disk.readBytes ⟨[("a.go", .file [0x0a, 0x63, 0xfc, 0x72])], []⟩ ⟨.relative, ["a.go"]⟩ =
      .ok [0x0a, 0x63, 0xfc, 0x72] := rfl
  obtain ⟨⟨line, column⟩, refused, lines, columns, -⟩ :=
    (readFile_undecodable read invalid).2 ['\n', 'c'] 0xfc [0x72] ⟨by decide, Text.not_prefix_of_decodeChar rfl⟩
  cases lines
  cases columns
  exact refused

/-- The column of a fault behind a character of two bytes is not the one that a syntax error has. -/
theorem column_counts_bytes : ¬ ∀ disk path bytes before first rest,
    disk.readBytes path = .ok bytes → FirstUndecodable bytes before first rest →
    ∃ cause, readFile disk path = .error (.definition {
      cause, location := some ((Position.behind (withoutMark before)).inFile path.text) }) := by
  intro agrees
  obtain ⟨cause, refused⟩ :=
    agrees ⟨[("a.go", .file [0xc3, 0xa9, 0xff])], []⟩ ⟨.relative, ["a.go"]⟩ [0xc3, 0xa9, 0xff] ['é'] 0xff []
      rfl ⟨by decide, Text.not_prefix_of_decodeChar rfl⟩
  have actual : readFile ⟨[("a.go", .file [0xc3, 0xa9, 0xff])], []⟩ ⟨.relative, ["a.go"]⟩ =
      .error (decodingFailure ⟨.relative, ["a.go"]⟩ [0xc3, 0xa9, 0xff] 2) := rfl
  rw [actual, decodingFailure] at refused
  simp [Position.behind, lineUpTo, Position.inFile, withoutMark] at refused

end Loading

end GoIdl
