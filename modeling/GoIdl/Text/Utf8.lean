/-!
# UTF-8

`decode` stops at the first sequence that is no character and says how many of its bytes could
still have started one.
-/

namespace GoIdl.Text

def encodeChar (c : Char) : List UInt8 :=
  let n := c.toNat
  let tail (shift : Nat) : UInt8 := UInt8.ofNat (0x80 + n / Nat.pow 2 shift % 0x40)
  if n < 0x80 then [UInt8.ofNat n]
  else if n < 0x800 then [UInt8.ofNat (0xc0 + n / Nat.pow 2 6), tail 0]
  else if n < 0x10000 then [UInt8.ofNat (0xe0 + n / Nat.pow 2 12), tail 6, tail 0]
  else [UInt8.ofNat (0xf0 + n / Nat.pow 2 18), tail 12, tail 6, tail 0]

def encode (s : List Char) : List UInt8 := s.flatMap encodeChar

inductive Utf8Fault where
  | badStart
  | badContinuation
  | truncated
  deriving DecidableEq, Repr

def Utf8Fault.message : Utf8Fault → String
  | badStart => "invalid start byte"
  | badContinuation => "invalid continuation byte"
  | truncated => "unexpected end of data"

/-- What a first byte announces: the bytes that follow, the bounds of the first of these, and the
bits that it gives itself. -/
structure Lead where
  more : Nat
  low : Nat
  high : Nat
  bits : Nat

def lead? (byte : Nat) : Option Lead :=
  if byte < 0x80 then some ⟨0, 0, 0, byte⟩
  else if byte < 0xc2 then none
  else if byte < 0xe0 then some ⟨1, 0x80, 0xbf, byte - 0xc0⟩
  else if byte = 0xe0 then some ⟨2, 0xa0, 0xbf, 0⟩
  else if byte = 0xed then some ⟨2, 0x80, 0x9f, 0xd⟩
  else if byte < 0xf0 then some ⟨2, 0x80, 0xbf, byte - 0xe0⟩
  else if byte = 0xf0 then some ⟨3, 0x90, 0xbf, 0⟩
  else if byte < 0xf4 then some ⟨3, 0x80, 0xbf, byte - 0xf0⟩
  else if byte = 0xf4 then some ⟨3, 0x80, 0x8f, 4⟩
  else none

/-- Reads `more` further bytes, the first between the bounds. `taken` counts the bytes before. -/
def continuation (more low high bits taken : Nat) (bytes : List UInt8) :
    Except (Utf8Fault × Nat) (Nat × List UInt8) :=
  match more, bytes with
  | 0, bytes => .ok (bits, bytes)
  | _ + 1, [] => .error (.truncated, taken)
  | more + 1, byte :: rest =>
    if low ≤ byte.toNat ∧ byte.toNat ≤ high then
      continuation more 0x80 0xbf (bits * 0x40 + (byte.toNat - 0x80)) (taken + 1) rest
    else .error (.badContinuation, taken)

/-- The first character of a sequence of bytes and the bytes after it. -/
def decodeChar : List UInt8 → Except (Utf8Fault × Nat) (Char × List UInt8)
  | [] => .error (.truncated, 0)
  | byte :: rest =>
    match lead? byte.toNat with
    | none => .error (.badStart, 1)
    | some lead => do
      let (n, rest) ← continuation lead.more lead.low lead.high lead.bits 1 rest
      return (Char.ofNat n, rest)

/-- Decodes bytes that start at `offset`. A fault comes with its offset and the bytes it covers.
Every character takes a byte, so the number of bytes is enough `fuel`. -/
def decodeFrom (fuel offset : Nat) (bytes : List UInt8) :
    Except (Utf8Fault × Nat × List UInt8) (List Char) :=
  match fuel, bytes with
  | 0, _ => .ok []
  | _, [] => .ok []
  | fuel + 1, bytes =>
    match decodeChar bytes with
    | .ok (c, rest) => (decodeFrom fuel (offset + (bytes.length - rest.length)) rest).map (c :: ·)
    | .error (fault, count) => .error (fault, offset, bytes.take count)

def decode (bytes : List UInt8) : Except (Utf8Fault × Nat × List UInt8) (List Char) :=
  decodeFrom bytes.length 0 bytes

end GoIdl.Text
