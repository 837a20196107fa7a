import GoIdl.Json.Basic
import GoIdl.Text.Hex

/-!
# Reading JSON

`Json.read` accepts one JSON text with blanks around it, and beyond the standard the words `NaN`,
`Infinity` and `-Infinity`. A fault says what was expected where reading stopped.
-/

namespace GoIdl.Json

open Decimal (Binary64)

inductive Fault where
  | byteOrderMark
  | expectingValue
  | extraData
  | unterminatedString
  | controlCharacter
  | invalidEscape
  | invalidUnicodeEscape
  | expectingName
  | expectingColon
  | expectingComma
  /-- An integer of more digits than are read. -/
  | tooManyDigits (count : Nat)
  deriving DecidableEq, Repr

/-- An integer may have this many digits. -/
def digitLimit : Nat := 4300

def Fault.message : Fault → String
  | .byteOrderMark => "Unexpected UTF-8 BOM (decode using utf-8-sig)"
  | .expectingValue => "Expecting value"
  | .extraData => "Extra data"
  | .unterminatedString => "Unterminated string starting at"
  | .controlCharacter => "Invalid control character at"
  | .invalidEscape => "Invalid \\escape"
  | .invalidUnicodeEscape => "Invalid \\uXXXX escape"
  | .expectingName => "Expecting property name enclosed in double quotes"
  | .expectingColon => "Expecting ':' delimiter"
  | .expectingComma => "Expecting ',' delimiter"
  | .tooManyDigits count =>
    s!"Exceeds the limit ({digitLimit} digits) for integer string conversion: value has {count} " ++
      "digits; use sys.set_int_max_str_digits() to increase the limit"

def isBlank (c : Char) : Bool := c == ' ' || c == '\t' || c == '\n' || c == '\r'

def skipBlanks (s : List Char) : List Char := s.dropWhile isBlank

/-! ### Numbers -/

def decimalValue (digits : List Char) : Nat :=
  digits.foldl (fun n d => 10 * n + (d.toNat - '0'.toNat)) 0

def spanDigits (s : List Char) : List Char × List Char := s.span Char.isDigit

/-- The digits after a point, if the point is followed by one. -/
def readFraction : List Char → Option (List Char × List Char)
  | '.' :: rest =>
    match spanDigits rest with
    | ([], _) => none
    | (digits, rest) => some (digits, rest)
  | _ => none

def readExponent : List Char → Option (Int × List Char)
  | c :: rest =>
    if c = 'e' ∨ c = 'E' then
      let (negative, rest) :=
        match rest with
        | '+' :: rest => (false, rest)
        | '-' :: rest => (true, rest)
        | _ => (false, rest)
      match spanDigits rest with
      | ([], _) => none
      | (digits, rest) =>
        -- beyond twelve digits every exponent is out of range in the same way
        let size := decimalValue (if digits.length ≤ 12 then digits else
          digits.dropWhile (· == '0') |>.take 12)
        some (if negative then -size else size, rest)
    else none
  | [] => none

/-- The digits of an integer: a zero alone, or digits that start with another. -/
def readWhole : List Char → Option (List Char × List Char)
  | [] => none
  | '0' :: rest => some (['0'], rest)
  | s =>
    match spanDigits s with
    | ([], _) => none
    | (digits, rest) => some (digits, rest)

def readNumber (s : List Char) : Except Fault (Json × List Char) := do
  let (negative, unsigned) :=
    match s with
    | '-' :: rest => (true, rest)
    | _ => (false, s)
  match readWhole unsigned with
  | none => .error .expectingValue
  | some (whole, rest) =>
    let fraction := readFraction rest
    let (places, rest) := fraction.getD ([], rest)
    let exponent := readExponent rest
    let (power, rest) := exponent.getD (0, rest)
    if fraction.isNone ∧ exponent.isNone then
      if digitLimit < whole.length then .error (.tooManyDigits whole.length)
      else
        let n : Int := decimalValue whole
        .ok (.int (if negative then -n else n), rest)
    else
      .ok (.float (.nearest negative (decimalValue (whole ++ places)) (power - places.length)),
        rest)

/-! ### Strings -/

/-- Four hexadecimal digits with something after them. -/
def readUnit : List Char → Option (Nat × List Char)
  | a :: b :: c :: d :: rest =>
    if rest.isEmpty then none
    else (Text.hexNumber [a, b, c, d]).map (·, rest)
  | _ => none

def isHighSurrogate (n : Nat) : Bool := decide (0xd800 ≤ n ∧ n < 0xdc00)

def isLowSurrogate (n : Nat) : Bool := decide (0xdc00 ≤ n ∧ n < 0xe000)

/-- The character of a code unit. A surrogate that stands alone has none and becomes the
replacement character. -/
def charOfUnit (n : Nat) : Char :=
  if isHighSurrogate n || isLowSurrogate n then '\ufffd' else Char.ofNat n

/-- The character of a `\u` escape and the text after it, two escapes being taken together when
they are the halves of one character. -/
def readUnicodeEscape (s : List Char) : Option (Char × List Char) := do
  let (first, rest) ← readUnit s
  match rest with
  | '\\' :: 'u' :: after =>
    if isHighSurrogate first then
      match readUnit after with
      | some (second, rest') =>
        if isLowSurrogate second then
          some (Char.ofNat (0x10000 + (first - 0xd800) * 0x400 + (second - 0xdc00)), rest')
        else some (charOfUnit first, rest)
      | none => some (charOfUnit first, rest)
    else some (charOfUnit first, rest)
  | _ => some (charOfUnit first, rest)

def simpleEscape : Char → Option Char
  | '"' => some '"'
  | '\\' => some '\\'
  | '/' => some '/'
  | 'b' => some '\x08'
  | 'f' => some '\x0c'
  | 'n' => some '\n'
  | 'r' => some '\r'
  | 't' => some '\t'
  | _ => none

/-- The rest of a string after its opening quote. Every step consumes a character, so the length
of the text is enough `fuel`. `read` holds the characters so far, last first. -/
def readString (fuel : Nat) (read : List Char) (s : List Char) :
    Except Fault (String × List Char) :=
  match fuel with
  | 0 => .error .unterminatedString
  | fuel + 1 =>
    match s with
    | [] => .error .unterminatedString
    | '"' :: rest => .ok (String.ofList read.reverse, rest)
    | ['\\'] => .error .unterminatedString
    | '\\' :: 'u' :: rest =>
      match readUnicodeEscape rest with
      | none => .error .invalidUnicodeEscape
      | some (c, rest) => readString fuel (c :: read) rest
    | '\\' :: c :: rest =>
      match simpleEscape c with
      | none => .error .invalidEscape
      | some c => readString fuel (c :: read) rest
    | c :: rest =>
      if c.toNat < 0x20 then .error .controlCharacter else readString fuel (c :: read) rest

/-! ### Values -/

def afterWord (word : String) (s : List Char) : Option (List Char) :=
  if word.toList.isPrefixOf s then some (s.drop word.toList.length) else none

def words : List (String × Json) :=
  [("null", .null), ("true", .bool true), ("false", .bool false), ("NaN", .float .nan),
   ("Infinity", .float (.infinity false)), ("-Infinity", .float (.infinity true))]

mutual

/-- A value at the start of `s`. Every call consumes a character or stands for one, so twice the
length of the text is enough `fuel`. -/
def readValue (fuel : Nat) (s : List Char) : Except Fault (Json × List Char) :=
  match fuel with
  | 0 => .error .expectingValue
  | fuel + 1 =>
    match s with
    | [] => .error .expectingValue
    | '"' :: rest => do
      let (text, rest) ← readString (rest.length + 1) [] rest
      return (.str text, rest)
    | '{' :: rest =>
      match skipBlanks rest with
      | '}' :: rest => .ok (.obj [], rest)
      | rest => readMembers fuel [] rest
    | '[' :: rest =>
      match skipBlanks rest with
      | ']' :: rest => .ok (.arr [], rest)
      | rest => readItems fuel [] rest
    | s =>
      match words.findSome? fun (word, value) => (afterWord word s).map (value, ·) with
      | some found => .ok found
      | none => readNumber s

def readMembers (fuel : Nat) (members : List (String × Json)) (s : List Char) :
    Except Fault (Json × List Char) :=
  match fuel with
  | 0 => .error .expectingValue
  | fuel + 1 =>
    match s with
    | '"' :: rest => do
      let (name, rest) ← readString (rest.length + 1) [] rest
      match skipBlanks rest with
      | ':' :: rest =>
        let (value, rest) ← readValue fuel (skipBlanks rest)
        let members := put name value members
        match skipBlanks rest with
        | '}' :: rest => return (.obj members, rest)
        | ',' :: rest => readMembers fuel members (skipBlanks rest)
        | _ => throw .expectingComma
      | _ => throw .expectingColon
    | _ => .error .expectingName

/-- The items of an array from a value on; `items` holds those read, last first. -/
def readItems (fuel : Nat) (items : List Json) (s : List Char) :
    Except Fault (Json × List Char) :=
  match fuel with
  | 0 => .error .expectingValue
  | fuel + 1 => do
    let (value, rest) ← readValue fuel s
    match skipBlanks rest with
    | ']' :: rest => return (.arr (value :: items).reverse, rest)
    | ',' :: rest => readItems fuel (value :: items) (skipBlanks rest)
    | _ => throw .expectingComma

end

def readAll (s : List Char) : Except Fault Json :=
  match s with
  | '\ufeff' :: _ => .error .byteOrderMark
  | _ => do
    let (value, rest) ← readValue (2 * s.length + 1) (skipBlanks s)
    if (skipBlanks rest).isEmpty then return value else throw .extraData

def read (s : String) : Except Fault Json := readAll s.toList

end GoIdl.Json
