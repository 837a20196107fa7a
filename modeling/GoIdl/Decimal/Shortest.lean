import GoIdl.Decimal.Binary64

/-!
# Shortest decimal text

The fewest digits that read back as the same number, the nearest such digits if there are several,
written out below `10 ^ 16` and from `10 ^ -4` on, and with an exponent elsewhere.
-/

namespace GoIdl.Decimal

/-- `mantissa · 2 ^ exponent · 2 ^ -1074` as a fraction. -/
def ratio (mantissa exponent : Nat) : Nat × Nat :=
  if 1074 ≤ exponent then (mantissa * Nat.pow 2 (exponent - 1074), 1)
  else (mantissa, Nat.pow 2 (1074 - exponent))

/-- `numerator / denominator · 10 ^ power` as a fraction. -/
def shift (numerator denominator : Nat) (power : Int) : Nat × Nat :=
  if 0 ≤ power then (numerator * Nat.pow 10 power.toNat, denominator)
  else (numerator, denominator * Nat.pow 10 (-power).toNat)

/-- The grid neighbour of the number that reads back, with `digits` counted in units of
`10 ^ power`; of two the nearer, of two as near the even one. -/
def onGrid? (mantissa exponent : Nat) (power : Int) : Option Nat :=
  let (n, d) := ratio mantissa exponent
  let (n, d) := shift n d (-power)
  let below := n / d
  let reads (digits : Nat) := Binary64.nearest false digits power == .finite false mantissa exponent
  match reads below, reads (below + 1) with
  | true, true => some (roundDiv n d)
  | true, false => some below
  | false, true => some (below + 1)
  | false, false => none

/-- Tries grids from coarse to fine, `steps` of them. -/
def shortestFrom (mantissa exponent : Nat) (power : Int) : Nat → Nat × Int
  | 0 => (0, 0)
  | steps + 1 =>
    match onGrid? mantissa exponent power with
    | some digits => (digits, power)
    | none => shortestFrom mantissa exponent (power - 1) steps

/-- The digits and the power of ten of their last place. Three hundred and eleven places before the
point are enough for every number, and seventeen digits always read back. -/
def shortest (mantissa exponent : Nat) : Nat × Int :=
  let (n, d) := ratio mantissa exponent
  let whole := n / d
  let top : Int :=
    if whole ≠ 0 then (Nat.toDigits 10 whole).length
    else (Nat.toDigits 10 (n * Nat.pow 10 330 / d)).length - 330
  shortestFrom mantissa exponent top 20

/-- Drops final zeros, raising the power of the last place. -/
def dropZeros (digits : List Char) : List Char :=
  match digits.reverse.dropWhile (· == '0') with
  | [] => ['0']
  | kept => kept.reverse

/-- The exponent with its sign and at least two digits. -/
def exponentText (e : Int) : List Char :=
  let digits := Nat.toDigits 10 e.natAbs
  'e' :: (if e < 0 then '-' else '+') :: (List.replicate (2 - digits.length) '0' ++ digits)

/-- Lays out `digits`, of which the first `point` stand before the decimal point. -/
def layout (digits : List Char) (point : Int) : List Char :=
  if point < -3 ∨ 16 < point then
    match digits with
    | [] => []
    | [d] => d :: exponentText (point - 1)
    | d :: rest => d :: '.' :: rest ++ exponentText (point - 1)
  else if point ≤ 0 then
    '0' :: '.' :: List.replicate (-point).toNat '0' ++ digits
  else
    let whole := point.toNat
    if digits.length ≤ whole then
      digits ++ List.replicate (whole - digits.length) '0' ++ ['.', '0']
    else digits.take whole ++ '.' :: digits.drop whole

def magnitudeText (mantissa exponent : Nat) : List Char :=
  if mantissa = 0 then ['0', '.', '0']
  else
    let (digits, power) := shortest mantissa exponent
    let text := Nat.toDigits 10 digits
    layout (dropZeros text) (text.length + power)

def Binary64.text : Binary64 → List Char
  | .nan => "NaN".toList
  | .infinity false => "Infinity".toList
  | .infinity true => "-Infinity".toList
  | .finite negative mantissa exponent =>
    (if negative then ['-'] else []) ++ magnitudeText mantissa exponent

end GoIdl.Decimal
