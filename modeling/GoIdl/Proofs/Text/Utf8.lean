import GoIdl.Text.Utf8
import GoIdl.Proofs.Outcomes
import Mathlib.Tactic.IntervalCases

/-!
# Decoding what was encoded

Decoding answers with no more characters than there are bytes, and gives back every text that was
encoded. It accepts nothing else, and stops where the longest start that encodes a text ends.
-/

namespace GoIdl.Text

variable {fuel offset : Nat} {bytes rest : List UInt8} {text : List Char} {c : Char}

theorem decodeFrom_length (decoded : decodeFrom fuel offset bytes = .ok text) :
    text.length ≤ fuel := by
  induction fuel generalizing offset bytes text with
  | zero =>
    cases decoded
    exact Nat.zero_le _
  | succ fuel ih =>
    unfold decodeFrom at decoded
    split at decoded
    · cases decoded
      exact Nat.zero_le _
    · cases decoded
      exact Nat.zero_le _
    · rename_i same _
      cases same
      split at decoded
      · obtain ⟨others, later, same⟩ := map_eq_ok.mp decoded
        cases same
        exact Nat.succ_le_succ (ih later)
      · cases decoded

theorem decode_length (decoded : decode bytes = .ok text) : text.length ≤ bytes.length :=
  decodeFrom_length decoded

/-! ### Single characters -/

theorem toNat_valid (c : Char) : c.toNat < 0xd800 ∨ 0xdfff < c.toNat ∧ c.toNat < 0x110000 := c.valid

theorem lead?_one {n : Nat} (small : n < 0x80) : lead? n = some ⟨0, 0, 0, n⟩ := if_pos small

theorem lead?_two {bits : Nat} (low : 2 ≤ bits) (high : bits < 0x20) :
    lead? (0xc0 + bits) = some ⟨1, 0x80, 0xbf, bits⟩ := by
  interval_cases bits <;> rfl

theorem lead?_three {bits : Nat} (high : bits < 0x10) :
    lead? (0xe0 + bits) =
      some ⟨2, if bits = 0 then 0xa0 else 0x80, if bits = 0xd then 0x9f else 0xbf, bits⟩ := by
  interval_cases bits <;> rfl

theorem lead?_four {bits : Nat} (high : bits ≤ 4) :
    lead? (0xf0 + bits) =
      some ⟨3, if bits = 0 then 0x90 else 0x80, if bits = 4 then 0x8f else 0xbf, bits⟩ := by
  interval_cases bits <;> rfl

theorem toNat_byte {n : Nat} (small : n < 0x100) : (UInt8.ofNat n).toNat = n :=
  UInt8.toNat_ofNat_of_lt' small

theorem continuation_byte {more low high bits taken n : Nat} (atLeast : low ≤ 0x80 + n % 0x40)
    (atMost : 0x80 + n % 0x40 ≤ high) :
    continuation (more + 1) low high bits taken (UInt8.ofNat (0x80 + n % 0x40) :: rest) =
      continuation more 0x80 0xbf (bits * 0x40 + n % 0x40) (taken + 1) rest := by
  have byte : (UInt8.ofNat (0x80 + n % 0x40)).toNat = 0x80 + n % 0x40 := toNat_byte (by omega)
  rw [continuation, byte, if_pos ⟨atLeast, atMost⟩, Nat.add_sub_cancel_left]

theorem decodeChar_cons {n more low high first bits : Nat} {c : Char} {bytes : List UInt8}
    (small : n < 0x100) (announced : lead? n = some ⟨more, low, high, first⟩)
    (read : continuation more low high first 1 bytes = .ok (bits, rest))
    (same : Char.ofNat bits = c) : decodeChar (UInt8.ofNat n :: bytes) = .ok (c, rest) := by
  rw [decodeChar, toNat_byte small, announced]
  dsimp only
  rw [read, ← same]
  rfl

theorem decodeChar_encodeChar (c : Char) (rest : List UInt8) :
    decodeChar (encodeChar c ++ rest) = .ok (c, rest) := by
  have valid := toNat_valid c
  have back : ∀ {bits}, bits = c.toNat → Char.ofNat bits = c := by
    rintro _ rfl
    exact Char.ofNat_toNat c
  have powers : Nat.pow 2 0 = 1 ∧ Nat.pow 2 6 = 0x40 ∧ Nat.pow 2 12 = 0x1000 ∧
      Nat.pow 2 18 = 0x40000 := ⟨rfl, rfl, rfl, rfl⟩
  simp only [encodeChar, powers, Nat.div_one]
  split
  · rename_i one
    exact decodeChar_cons (by omega) (lead?_one one) rfl (back rfl)
  split
  · exact decodeChar_cons (by omega) (lead?_two (by omega) (by omega))
      (continuation_byte (by omega) (by omega)) (back (by omega))
  split
  · exact decodeChar_cons (by omega) (lead?_three (by omega))
      ((continuation_byte (by split <;> omega) (by split <;> omega)).trans
        (continuation_byte (by omega) (by omega))) (back (by omega))
  · exact decodeChar_cons (by omega) (lead?_four (by omega))
      ((continuation_byte (by split <;> omega) (by split <;> omega)).trans
        ((continuation_byte (by omega) (by omega)).trans
          (continuation_byte (by omega) (by omega)))) (back (by omega))

theorem encodeChar_eq (c : Char) : encodeChar c = String.utf8EncodeChar c := by
  have valid := toNat_valid c
  have powers : Nat.pow 2 0 = 1 ∧ Nat.pow 2 6 = 64 ∧ Nat.pow 2 12 = 4096 ∧ Nat.pow 2 18 = 262144 :=
    ⟨rfl, rfl, rfl, rfl⟩
  have number : c.val.toNat = c.toNat := rfl
  simp only [encodeChar, String.utf8EncodeChar, powers, Nat.div_one, number]
  by_cases one : c.toNat < 0x80
  · rw [if_pos one, if_pos (show c.toNat ≤ 127 by omega)]
  rw [if_neg one, if_neg (show ¬c.toNat ≤ 127 by omega)]
  by_cases two : c.toNat < 0x800
  · rw [if_pos two, if_pos (show c.toNat ≤ 2047 by omega)]
    simp only [List.cons.injEq, and_true]
    refine ⟨congrArg _ ?_, congrArg _ ?_⟩ <;> omega
  rw [if_neg two, if_neg (show ¬c.toNat ≤ 2047 by omega)]
  by_cases three : c.toNat < 0x10000
  · rw [if_pos three, if_pos (show c.toNat ≤ 65535 by omega)]
    simp only [List.cons.injEq, and_true]
    refine ⟨congrArg _ ?_, congrArg _ ?_, congrArg _ ?_⟩ <;> omega
  · rw [if_neg three, if_neg (show ¬c.toNat ≤ 65535 by omega)]
    simp only [List.cons.injEq, and_true]
    refine ⟨congrArg _ ?_, congrArg _ ?_, congrArg _ ?_, congrArg _ ?_⟩ <;> omega

/-- A character is ASCII and a byte, or its bytes are more than one and beyond ASCII. -/
theorem encodeChar_cases (c : Char) :
    (c.toNat < 0x80 ∧ encodeChar c = [UInt8.ofNat c.toNat]) ∨
      (0x80 ≤ c.toNat ∧ 1 < (encodeChar c).length ∧ ∀ b ∈ encodeChar c, 0x80 ≤ b.toNat) := by
  have valid := toNat_valid c
  have byte : ∀ {n : Nat}, n < 0x80 → 0x80 ≤ (UInt8.ofNat (0x80 + n)).toNat := fun small => by
    rw [toNat_byte (by omega)]
    omega
  have head : ∀ {n : Nat}, 0x80 ≤ n → n < 0x100 → 0x80 ≤ (UInt8.ofNat n).toNat := fun atLeast small => by
    rw [toNat_byte small]
    exact atLeast
  have powers : Nat.pow 2 0 = 1 ∧ Nat.pow 2 6 = 0x40 ∧ Nat.pow 2 12 = 0x1000 ∧ Nat.pow 2 18 = 0x40000 :=
    ⟨rfl, rfl, rfl, rfl⟩
  simp only [encodeChar, powers, Nat.div_one]
  split
  · exact .inl ⟨‹_›, rfl⟩
  refine .inr ⟨by omega, ?_⟩
  split
  · refine ⟨by simp, ?_⟩
    simp only [List.forall_mem_cons]
    exact ⟨head (by omega) (by omega), byte (by omega), List.forall_mem_nil _⟩
  split
  · refine ⟨by simp, ?_⟩
    simp only [List.forall_mem_cons]
    exact ⟨head (by omega) (by omega), byte (by omega), byte (by omega), List.forall_mem_nil _⟩
  · refine ⟨by simp, ?_⟩
    simp only [List.forall_mem_cons]
    exact ⟨head (by omega) (by omega), byte (by omega), byte (by omega), byte (by omega), List.forall_mem_nil _⟩

/-! ### Texts -/

theorem encodeChar_ne_nil (c : Char) : encodeChar c ≠ [] := by
  unfold encodeChar
  dsimp only
  split
  · simp
  split
  · simp
  split <;> simp

theorem encode_eq (text : List Char) : encode text = text.flatMap String.utf8EncodeChar :=
  List.flatMap_congr fun c _ => encodeChar_eq c

theorem encode_append (first second : List Char) :
    encode (first ++ second) = encode first ++ encode second := List.flatMap_append

theorem length_encode (text : List Char) : text.length ≤ (encode text).length ∧
    ((encode text).length = text.length ↔ ∀ c ∈ text, c.toNat < 0x80) := by
  induction text with
  | nil => exact ⟨Nat.le_refl _, by simp [encode]⟩
  | cons c text ih =>
    have whole : encode (c :: text) = encodeChar c ++ encode text := rfl
    rw [whole, List.length_append, List.length_cons, List.forall_mem_cons, ← ih.2]
    rcases encodeChar_cases c with ⟨small, single⟩ | ⟨large, several, -⟩
    · rw [single, List.length_singleton]
      omega
    · omega

theorem decodeFrom_encode (offset : Nat) (enough : (encode text).length ≤ fuel) :
    decodeFrom fuel offset (encode text) = .ok text := by
  induction text generalizing fuel offset with
  | nil => cases fuel <;> rfl
  | cons c text ih =>
    obtain ⟨byte, more, first⟩ := List.exists_cons_of_ne_nil (encodeChar_ne_nil c)
    have whole : encode (c :: text) = encodeChar c ++ encode text := rfl
    have bytes : encode (c :: text) = byte :: (more ++ encode text) := by rw [whole, first]; rfl
    have read : decodeChar (byte :: (more ++ encode text)) = .ok (c, encode text) := by
      rw [← bytes, whole]
      exact decodeChar_encodeChar c _
    rw [bytes] at enough ⊢
    cases fuel with
    | zero => simp at enough
    | succ fuel =>
      rw [decodeFrom, read]
      · dsimp only
        rw [ih _ (by simp only [List.length_cons, List.length_append] at enough; omega)]
        rfl
      · exact List.cons_ne_nil _ _

/-- Texts survive encoding. -/
theorem decode_encode (text : List Char) : decode (encode text) = .ok text :=
  decodeFrom_encode 0 (Nat.le_refl _)

theorem encode_injective {first second : List Char} (same : encode first = encode second) :
    first = second := by
  have decoded := decode_encode first
  rw [same, decode_encode second] at decoded
  exact (Except.ok.inj decoded).symm

/-! ### Bytes that are no text -/

theorem toNat_ofNat {n : Nat} (valid : n < 0xd800 ∨ 0xdfff < n ∧ n < 0x110000) :
    (Char.ofNat n).toNat = n := by
  have scalar : n.isValidChar := valid
  rw [Char.ofNat, dif_pos scalar]
  rfl

theorem continuation_zero {low high bits taken n : Nat}
    (read : continuation 0 low high bits taken bytes = .ok (n, rest)) : n = bits ∧ rest = bytes := by
  rw [continuation] at read
  cases read
  exact ⟨rfl, rfl⟩

theorem continuation_succ {more low high bits taken n : Nat} (tail : 0x80 ≤ low)
    (read : continuation (more + 1) low high bits taken bytes = .ok (n, rest)) :
    ∃ digit after, bytes = UInt8.ofNat (0x80 + digit) :: after ∧ low ≤ 0x80 + digit ∧ 0x80 + digit ≤ high ∧
      continuation more 0x80 0xbf (bits * 0x40 + digit) (taken + 1) after = .ok (n, rest) := by
  cases bytes with
  | nil => cases read
  | cons byte after =>
    rw [continuation] at read
    split at read
    · rename_i between
      have digit : 0x80 + (byte.toNat - 0x80) = byte.toNat := by omega
      exact ⟨byte.toNat - 0x80, after, by rw [digit, UInt8.ofNat_toNat], by omega, by omega, read⟩
    · cases read

theorem encodeChar_two {a b : Nat} (low : 2 ≤ a) (high : a < 0x20) (tail : b < 0x40) :
    encodeChar (Char.ofNat (a * 0x40 + b)) = [UInt8.ofNat (0xc0 + a), UInt8.ofNat (0x80 + b)] := by
  have powers : Nat.pow 2 0 = 1 ∧ Nat.pow 2 6 = 0x40 := ⟨rfl, rfl⟩
  simp only [encodeChar, toNat_ofNat (n := a * 0x40 + b) (by omega), powers, Nat.div_one]
  rw [if_neg (by omega), if_pos (by omega), show (a * 0x40 + b) / 0x40 = a by omega,
    show (a * 0x40 + b) % 0x40 = b by omega]

theorem encodeChar_three {a b d : Nat} (low : 0x20 ≤ a * 0x40 + b) (high : a < 0x10)
    (surrogate : a = 0xd → b < 0x20) (tail : b < 0x40) (tail' : d < 0x40) :
    encodeChar (Char.ofNat ((a * 0x40 + b) * 0x40 + d)) =
      [UInt8.ofNat (0xe0 + a), UInt8.ofNat (0x80 + b), UInt8.ofNat (0x80 + d)] := by
  have powers : Nat.pow 2 0 = 1 ∧ Nat.pow 2 6 = 0x40 ∧ Nat.pow 2 12 = 0x1000 := ⟨rfl, rfl, rfl⟩
  simp only [encodeChar, toNat_ofNat (n := (a * 0x40 + b) * 0x40 + d) (by omega), powers,
    Nat.div_one]
  rw [if_neg (by omega), if_neg (by omega), if_pos (by omega),
    show ((a * 0x40 + b) * 0x40 + d) / 0x1000 = a by omega,
    show ((a * 0x40 + b) * 0x40 + d) / 0x40 % 0x40 = b by omega,
    show ((a * 0x40 + b) * 0x40 + d) % 0x40 = d by omega]

theorem encodeChar_four {a b d e : Nat} (low : 0x10 ≤ a * 0x40 + b) (high : a * 0x40 + b < 0x110)
    (tail : b < 0x40) (tail' : d < 0x40) (tail'' : e < 0x40) :
    encodeChar (Char.ofNat (((a * 0x40 + b) * 0x40 + d) * 0x40 + e)) =
      [UInt8.ofNat (0xf0 + a), UInt8.ofNat (0x80 + b), UInt8.ofNat (0x80 + d), UInt8.ofNat (0x80 + e)] := by
  have powers : Nat.pow 2 0 = 1 ∧ Nat.pow 2 6 = 0x40 ∧ Nat.pow 2 12 = 0x1000 ∧ Nat.pow 2 18 = 0x40000 :=
    ⟨rfl, rfl, rfl, rfl⟩
  simp only [encodeChar, toNat_ofNat (n := ((a * 0x40 + b) * 0x40 + d) * 0x40 + e) (by omega), powers,
    Nat.div_one]
  rw [if_neg (by omega), if_neg (by omega), if_neg (by omega),
    show (((a * 0x40 + b) * 0x40 + d) * 0x40 + e) / 0x40000 = a by omega,
    show (((a * 0x40 + b) * 0x40 + d) * 0x40 + e) / 0x1000 % 0x40 = b by omega,
    show (((a * 0x40 + b) * 0x40 + d) * 0x40 + e) / 0x40 % 0x40 = d by omega,
    show (((a * 0x40 + b) * 0x40 + d) * 0x40 + e) % 0x40 = e by omega]

theorem lead?_none {byte : Nat} (other : 0x80 ≤ byte ∧ byte < 0xc2 ∨ 0xf4 < byte) : lead? byte = none := by
  unfold lead?
  rw [if_neg (by omega)]
  split
  · rfl
  · rw [if_neg (by omega), if_neg (by omega), if_neg (by omega), if_neg (by omega), if_neg (by omega),
      if_neg (by omega), if_neg (by omega)]

/-- What a first byte announces: a character of its own, or further bytes within bounds that leave out
the longer encodings, the surrogates and what lies beyond the last character. -/
theorem lead?_cases {byte : Nat} {lead : Lead} (announced : lead? byte = some lead) :
    (byte < 0x80 ∧ lead = ⟨0, 0, 0, byte⟩) ∨
    (∃ bits, byte = 0xc0 + bits ∧ 2 ≤ bits ∧ bits < 0x20 ∧ lead = ⟨1, 0x80, 0xbf, bits⟩) ∨
    (∃ bits low high, byte = 0xe0 + bits ∧ bits < 0x10 ∧ 0x80 ≤ low ∧ high ≤ 0xbf ∧
      (bits = 0 → 0xa0 ≤ low) ∧ (bits = 0xd → high ≤ 0x9f) ∧ lead = ⟨2, low, high, bits⟩) ∨
    (∃ bits low high, byte = 0xf0 + bits ∧ bits ≤ 4 ∧ 0x80 ≤ low ∧ high ≤ 0xbf ∧
      (bits = 0 → 0x90 ≤ low) ∧ (bits = 4 → high ≤ 0x8f) ∧ lead = ⟨3, low, high, bits⟩) := by
  by_cases one : byte < 0x80
  · rw [lead?_one one] at announced
    exact .inl ⟨one, (Option.some.inj announced).symm⟩
  by_cases none : byte < 0xc2 ∨ 0xf4 < byte
  · rw [lead?_none (by omega)] at announced
    cases announced
  by_cases two : byte < 0xe0
  · obtain ⟨bits, rfl⟩ := Nat.exists_eq_add_of_le (show 0xc0 ≤ byte by omega)
    rw [lead?_two (by omega) (by omega)] at announced
    exact .inr (.inl ⟨bits, rfl, by omega, by omega, (Option.some.inj announced).symm⟩)
  by_cases three : byte < 0xf0
  · obtain ⟨bits, rfl⟩ := Nat.exists_eq_add_of_le (show 0xe0 ≤ byte by omega)
    rw [lead?_three (by omega)] at announced
    refine .inr (.inr (.inl ⟨bits, _, _, rfl, by omega, ?_, ?_, ?_, ?_, (Option.some.inj announced).symm⟩))
    all_goals split <;> omega
  · obtain ⟨bits, rfl⟩ := Nat.exists_eq_add_of_le (show 0xf0 ≤ byte by omega)
    rw [lead?_four (by omega)] at announced
    refine .inr (.inr (.inr ⟨bits, _, _, rfl, by omega, ?_, ?_, ?_, ?_, (Option.some.inj announced).symm⟩))
    all_goals split <;> omega

theorem encodeChar_append_of_decodeChar (read : decodeChar bytes = .ok (c, rest)) :
    bytes = encodeChar c ++ rest := by
  unfold decodeChar at read
  split at read
  · cases read
  · rename_i byte more
    split at read
    · cases read
    · rename_i lead announced
      obtain ⟨⟨n, after⟩, continued, same⟩ := bind_eq_ok.mp read
      cases same
      have first : ∀ {k}, byte.toNat = k → byte = UInt8.ofNat k := by
        rintro _ rfl
        exact UInt8.ofNat_toNat.symm
      rcases lead?_cases announced with ⟨one, rfl⟩ | ⟨a, head, low, high, rfl⟩ |
          ⟨a, low, high, head, bound, atLeast, atMost, short, surrogate, rfl⟩ |
          ⟨a, low, high, head, bound, atLeast, atMost, short, beyond, rfl⟩
      · obtain ⟨rfl, rfl⟩ := continuation_zero continued
        rw [encodeChar]
        simp only [toNat_ofNat (n := byte.toNat) (by omega), if_pos one, UInt8.ofNat_toNat]
        rfl
      · dsimp only at continued
        obtain ⟨b, after, rfl, lowest, highest, continued⟩ := continuation_succ (by decide) continued
        obtain ⟨rfl, rfl⟩ := continuation_zero continued
        rw [encodeChar_two low high (by omega), first head]
        rfl
      · dsimp only at continued
        obtain ⟨b, after, rfl, lowest, highest, continued⟩ := continuation_succ atLeast continued
        obtain ⟨d, after, rfl, lowest', highest', continued⟩ := continuation_succ (by decide) continued
        obtain ⟨rfl, rfl⟩ := continuation_zero continued
        rw [encodeChar_three (by omega) bound (by omega) (by omega) (by omega), first head]
        rfl
      · dsimp only at continued
        obtain ⟨b, after, rfl, lowest, highest, continued⟩ := continuation_succ atLeast continued
        obtain ⟨d, after, rfl, lowest', highest', continued⟩ := continuation_succ (by decide) continued
        obtain ⟨e, after, rfl, lowest'', highest'', continued⟩ := continuation_succ (by decide) continued
        obtain ⟨rfl, rfl⟩ := continuation_zero continued
        rw [encodeChar_four (by omega) (by omega) (by omega) (by omega) (by omega), first head]
        rfl

theorem not_prefix_of_decodeChar {fault : Utf8Fault × Nat} (failed : decodeChar bytes = .error fault)
    (c : Char) : ¬ String.utf8EncodeChar c <+: bytes := by
  rintro ⟨more, rfl⟩
  rw [← encodeChar_eq, decodeChar_encodeChar] at failed
  cases failed

/-- Bytes that decode are those of the text; others are those of a text up to the place of the fault,
and what stands there starts with no character. -/
theorem decodeFrom_spec (enough : bytes.length ≤ fuel) :
    (∃ text, decodeFrom fuel offset bytes = .ok text ∧ bytes = encode text) ∨
      ∃ fault before rest covered, bytes = encode before ++ rest ∧ rest ≠ [] ∧
        (∀ c, ¬ String.utf8EncodeChar c <+: rest) ∧
        decodeFrom fuel offset bytes = .error (fault, offset + (encode before).length, covered) := by
  induction fuel generalizing offset bytes with
  | zero =>
    cases List.eq_nil_of_length_eq_zero (Nat.le_zero.mp enough)
    exact .inl ⟨[], rfl, rfl⟩
  | succ fuel ih =>
    cases bytes with
    | nil => exact .inl ⟨[], rfl, rfl⟩
    | cons byte more =>
      rw [decodeFrom]
      · cases read : decodeChar (byte :: more) with
        | error fault =>
          obtain ⟨fault, count⟩ := fault
          exact .inr ⟨fault, [], _, _, rfl, List.cons_ne_nil _ _, not_prefix_of_decodeChar read, rfl⟩
        | ok found =>
          obtain ⟨c, rest⟩ := found
          have whole := encodeChar_append_of_decodeChar read
          have taken := List.length_pos_of_ne_nil (encodeChar_ne_nil c)
          have lengths := congrArg List.length whole
          rw [List.length_append] at lengths
          have offsets : (byte :: more).length - rest.length = (encodeChar c).length := by omega
          dsimp only
          rw [offsets]
          rcases @ih (offset + (encodeChar c).length) rest (by omega) with
            ⟨text, later, same⟩ | ⟨fault, before, after, covered, same, some, stops, later⟩
          · refine .inl ⟨c :: text, by rw [later]; rfl, ?_⟩
            rw [whole, same]
            rfl
          · refine .inr ⟨fault, c :: before, after, covered, ?_, some, stops, ?_⟩
            · rw [whole, same, ← List.append_assoc]
              rfl
            · have length : (encode (c :: before)).length =
                  (encodeChar c).length + (encode before).length := List.length_append
              rw [later, length, ← Nat.add_assoc]
              rfl
      · exact List.cons_ne_nil _ _

theorem decode_spec (bytes : List UInt8) :
    (∃ text, decode bytes = .ok text ∧ bytes = encode text) ∨
      ∃ fault before rest covered, bytes = encode before ++ rest ∧ rest ≠ [] ∧
        (∀ c, ¬ String.utf8EncodeChar c <+: rest) ∧
        decode bytes = .error (fault, (encode before).length, covered) := by
  simpa [decode] using @decodeFrom_spec bytes.length 0 bytes (Nat.le_refl _)

end GoIdl.Text
