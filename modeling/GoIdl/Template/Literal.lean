import GoIdl.Json.Reader
import GoIdl.Syntax.Literal
import GoIdl.Text.CharacterName
import GoIdl.Text.Class

/-!
# Literals in templates

The escapes of a string are resolved over ASCII: every other character is first written as an
escape of its own, so that a backslash before one stands for itself. Numbers may have single
underscores between their digits.
-/

namespace GoIdl.Template

open Decimal (Binary64)

/-! ### Strings -/

/-- What is wrong with an escape. -/
inductive EscapeError where
  /-- Too few digits after the letter that asks for `width` of them. -/
  | truncated (letter : Char) (width : Nat)
  | noCharacter
  | noName
  | unknownName
  deriving DecidableEq, Repr

def EscapeError.message : EscapeError → String
  | truncated letter width =>
    "truncated \\" ++ String.ofList (letter :: List.replicate width 'X') ++ " escape"
  | noCharacter => "illegal Unicode character"
  | noName => "malformed \\N character escape"
  | unknownName => "unknown Unicode character name"

/-- A text in ASCII, with an escape for every other character. -/
def asciiText (s : List Char) : List Char :=
  s.flatMap fun c =>
    let n := c.toNat
    if n < 0x80 then [c]
    else if n < 0x100 then '\\' :: 'x' :: Text.hex 2 n
    else if n < 0x10000 then '\\' :: 'u' :: Text.hex 4 n
    else '\\' :: 'U' :: Text.hex 8 n

/-- What an escape stands for, and the number of characters that it takes after its backslash. -/
abbrev Escape := List Char × Nat

/-- An escape of `width` hexadecimal digits behind its letter. -/
def hexEscape (letter : Char) (width : Nat) (s : List Char) : Except EscapeError Escape :=
  match Syntax.hexEscape width s with
  | none => .error (.truncated letter width)
  | some (n, _) =>
    match Syntax.charOfNumber n with
    | .ok c => .ok ([c], width + 1)
    | .error _ => .error .noCharacter

/-- An escape that names its character in braces. -/
def namedEscape (s : List Char) : Except EscapeError Escape :=
  match s with
  | '\x7b' :: rest =>
    let name := rest.takeWhile (· != '\x7d')
    if name.isEmpty ∨ name.length = rest.length then .error .noName
    else
      match Text.charNamed? name with
      | some c => .ok ([c], name.length + 3)
      | none => .error .unknownName
  | _ => .error .noName

def octalEscape (s : List Char) : Escape :=
  let digits := (s.take 3).takeWhile Syntax.isOctal
  ([Char.ofNat (digits.foldl (fun n c => n * 8 + (c.toNat - '0'.toNat)) 0)], digits.length)

/-- The escape behind a backslash. A line break is left out, and a character that starts no escape
stays with its backslash. -/
def escape : List Char → Except EscapeError Escape
  | [] => .ok (['\\'], 0)
  | c :: rest =>
    if c = '\n' then .ok ([], 1)
    else if c = 'x' then hexEscape c 2 rest
    else if c = 'u' then hexEscape c 4 rest
    else if c = 'U' then hexEscape c 8 rest
    else if c = 'N' then namedEscape rest
    else if Syntax.isOctal c then .ok (octalEscape (c :: rest))
    else
      match Syntax.simpleEscape c with
      | some d => .ok ([d], 1)
      | none => .ok (['\\', c], 1)

/-- Resolves the escapes of a text; `skip` characters belong to the escape before. -/
def resolve (skip : Nat) : List Char → Except EscapeError (List Char)
  | [] => .ok []
  | c :: rest =>
    match skip with
    | skip + 1 => resolve skip rest
    | 0 =>
      if c = '\\' then do
        let (image, width) ← escape rest
        return image ++ (← resolve width rest)
      else (resolve 0 rest).map (c :: ·)

/-- What the inside of a string literal stands for. -/
def stringValue (body : List Char) : Except EscapeError (List Char) := resolve 0 (asciiText body)

/-! ### Numbers -/

/-- Digits at the start of a text, each with an underscore before it or none, and the text after
them. -/
def spacedDigits (isDigit : Char → Bool) : List Char → List Char × List Char
  | [] => ([], [])
  | [c] => if isDigit c then ([c], []) else ([], [c])
  | c :: d :: rest =>
    if isDigit c then
      let (digits, rest) := spacedDigits isDigit (d :: rest)
      (c :: digits, rest)
    else if c = '_' && isDigit d then
      let (digits, rest) := spacedDigits isDigit rest
      (d :: digits, rest)
    else ([], c :: d :: rest)

/-- Digits at the start of a text, the first without an underscore. -/
def leadingDigits? (s : List Char) : Option (List Char × List Char) :=
  match s with
  | c :: _ => if Text.isDecimal c then some (spacedDigits Text.isDecimal s) else none
  | [] => none

/-- The value of a digit of any script, or of a hexadecimal one. -/
def digitValue (c : Char) : Nat := ((Text.decimalValue? c).orElse fun _ => Text.hexValue c).getD 0

def numberOf (base : Nat) (digits : List Char) : Nat :=
  digits.foldl (fun n c => n * base + digitValue c) 0

/-- The base that a letter behind a zero announces, and its digits. -/
def base? (letter : Char) : Option (Nat × (Char → Bool)) :=
  if letter.toLower = 'b' then some (2, fun c => c == '0' || c == '1')
  else if letter.toLower = 'o' then some (8, Syntax.isOctal)
  else if letter.toLower = 'x' then
    some (16, fun c => Text.isDecimal c || (Text.hexValue c).isSome)
  else none

/-- The number in another base at the start of a text. -/
def based? : List Char → Option (Nat × List Char)
  | '0' :: letter :: rest => do
    let (base, isDigit) ← base? letter
    match spacedDigits isDigit rest with
    | ([], _) => none
    | (digits, rest) => some (numberOf base digits, rest)
  | _ => none

/-- The decimal digits of an integer at the start of a text. A leading zero takes only zeros. -/
def decimalDigits? : List Char → Option (List Char × List Char)
  | [] => none
  | c :: rest =>
    if c.isDigit then
      let (digits, rest) := spacedDigits (if c = '0' then (· == '0') else Text.isDecimal) rest
      some (c :: digits, rest)
    else none

/-- The integer at the start of a text. One with too many decimal digits has only their number. -/
def integer? (s : List Char) : Option (Except Nat Nat × List Char) :=
  match based? s with
  | some (n, rest) => some (.ok n, rest)
  | none =>
    (decimalDigits? s).map fun (digits, rest) =>
      let count := digits.length
      (if Json.digitLimit < count then .error count else .ok (numberOf 10 digits), rest)

/-- The exponent at the start of a text. -/
def exponent? : List Char → Option (Int × List Char)
  | mark :: rest => do
    if mark.toLower ≠ 'e' then none
    let (negative, rest) := match rest with
      | '-' :: rest => (true, rest)
      | '+' :: rest => (false, rest)
      | rest => (false, rest)
    let (digits, rest) ← leadingDigits? rest
    let n : Int := numberOf 10 digits
    some (if negative then -n else n, rest)
  | [] => none

/-- The fraction at the start of a text: its digits. -/
def fraction? : List Char → Option (List Char × List Char)
  | '.' :: rest => leadingDigits? rest
  | _ => none

/-- The number with a fraction or an exponent at the start of a text. -/
def float? (s : List Char) : Option (Binary64 × List Char) := do
  let (whole, rest) ← leadingDigits? s
  let (fraction, afterFraction) := (fraction? rest).getD ([], rest)
  let (exponent, rest) ←
    (exponent? afterFraction) <|>
      if fraction.isEmpty then none else some (0, afterFraction)
  let digits := numberOf 10 (whole ++ fraction)
  some (Binary64.nearest false digits (exponent - fraction.length), rest)

end GoIdl.Template
