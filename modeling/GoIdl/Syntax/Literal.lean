import GoIdl.Text.Hex

/-!
# String literals

A raw literal stands for its text without carriage returns, an interpreted one for its text with
the escapes resolved. An escape may name a number that is no character.
-/

namespace GoIdl.Syntax

/-- An escape whose number lies above the last character. -/
structure EscapeFault where
  number : Nat
  deriving DecidableEq, Repr

def EscapeFault.fitsInt (fault : EscapeFault) : Bool := decide (fault.number < Nat.pow 2 31)

def EscapeFault.message (fault : EscapeFault) : String :=
  if fault.fitsInt then "chr() arg not in range(0x110000)"
  else "Python int too large to convert to C int"

/-- The character with a number. A surrogate has none and becomes the replacement character. -/
def charOfNumber (n : Nat) : Except EscapeFault Char :=
  if 0x110000 ≤ n then .error ⟨n⟩
  else if 0xd800 ≤ n ∧ n < 0xe000 then .ok '\ufffd'
  else .ok (Char.ofNat n)

def simpleEscape : Char → Option Char
  | 'a' => some '\x07'
  | 'b' => some '\x08'
  | 'f' => some '\x0c'
  | 'n' => some '\n'
  | 'r' => some '\r'
  | 't' => some '\t'
  | 'v' => some '\x0b'
  | '\\' => some '\\'
  | '"' => some '"'
  | '\'' => some '\''
  | _ => none

def isOctal (c : Char) : Bool := decide ('0' ≤ c ∧ c ≤ '7')

/-- The number that `width` hexadecimal digits at the start of `s` write. -/
def hexEscape (width : Nat) (s : List Char) : Option (Nat × Nat) :=
  let digits := s.take width
  if digits.length < width then none else (Text.hexNumber digits).map (·, width)

/-- The number of an escape after its backslash, and how many characters it takes. -/
def escape? : List Char → Option (Nat × Nat)
  | [] => none
  | c :: rest =>
    match simpleEscape c with
    | some d => some (d.toNat, 1)
    | none =>
      if c = 'x' then (hexEscape 2 rest).map fun (n, w) => (n, w + 1)
      else if c = 'u' then (hexEscape 4 rest).map fun (n, w) => (n, w + 1)
      else if c = 'U' then (hexEscape 8 rest).map fun (n, w) => (n, w + 1)
      else
        match c, rest with
        | a, b :: d :: _ =>
          if isOctal a && isOctal b && isOctal d then
            some (([a, b, d].foldl (fun n c => n * 8 + (c.toNat - '0'.toNat)) 0), 3)
          else none
        | _, _ => none

/-- Resolves the escapes of a text; a backslash that starts none stays. `skip` characters belong
to the escape before. -/
def resolveEscapes (skip : Nat) : List Char → Except EscapeFault (List Char)
  | [] => .ok []
  | c :: rest =>
    match skip with
    | skip + 1 => resolveEscapes skip rest
    | 0 =>
      if c = '\\' then
        match escape? rest with
        | some (n, width) => do
          let d ← charOfNumber n
          return d :: (← resolveEscapes width rest)
        | none => (resolveEscapes 0 rest).map (c :: ·)
      else (resolveEscapes 0 rest).map (c :: ·)

/-- Whether a text starts and ends with `mark`, at two places. -/
def isBetween (mark : Char) (s : List Char) : Bool :=
  decide (2 ≤ s.length) && s.head? == some mark && s.getLast? == some mark

def inner (s : List Char) : List Char := (s.drop 1).dropLast

/-- What a literal stands for; a text that is no literal stands for itself. -/
def unquoteChars (s : List Char) : Except EscapeFault (List Char) :=
  if isBetween '`' s then .ok ((inner s).filter (· != '\r'))
  else if isBetween '"' s then resolveEscapes 0 (inner s)
  else .ok s

def unquote (s : String) : Except EscapeFault String := (unquoteChars s.toList).map String.ofList

end GoIdl.Syntax
