/-!
# Binary floating-point numbers

The 64-bit format, as exact data. A finite number is `mantissa · 2 ^ exponent` in units of
`2 ^ -1074`, the least positive number. `nearest` rounds a decimal to it, a half to the even
mantissa.
-/

namespace GoIdl.Decimal

inductive Binary64 where
  | nan
  | infinity (negative : Bool)
  | finite (negative : Bool) (mantissa exponent : Nat)
  deriving DecidableEq, Repr

/-- The quotient rounded to the nearest integer, a half to the even one. -/
def roundDiv (numerator denominator : Nat) : Nat :=
  let q := numerator / denominator
  let r := 2 * (numerator % denominator)
  if r < denominator ∨ (r = denominator ∧ q % 2 = 0) then q else q + 1

namespace Binary64

def zero (negative : Bool) : Binary64 := .finite negative 0 0

/-- The nearest number to `numerator / denominator`, or infinity beyond the range. -/
def ofRatio (negative : Bool) (numerator denominator : Nat) : Binary64 :=
  let scaled := numerator * Nat.pow 2 1074
  let exponent := Nat.log2 (scaled / denominator) - 52
  let mantissa := roundDiv scaled (denominator * Nat.pow 2 exponent)
  let (mantissa, exponent) :=
    if mantissa = Nat.pow 2 53 then (Nat.pow 2 52, exponent + 1) else (mantissa, exponent)
  if 2045 < exponent then .infinity negative else .finite negative mantissa exponent

/-- The nearest number to `digits · 10 ^ power`. Powers far outside the range are decided by the
number of digits alone. -/
def nearest (negative : Bool) (digits : Nat) (power : Int) : Binary64 :=
  let magnitude := (Nat.toDigits 10 digits).length + power
  if digits = 0 ∨ magnitude < -330 then zero negative
  else if 320 < magnitude then .infinity negative
  else if 0 ≤ power then ofRatio negative (digits * Nat.pow 10 power.toNat) 1
  else ofRatio negative digits (Nat.pow 10 (-power).toNat)

def negated : Binary64 → Binary64
  | nan => nan
  | infinity negative => infinity (!negative)
  | finite negative mantissa exponent => finite (!negative) mantissa exponent

/-- Equality as numbers: `nan` differs from itself, and both zeros are equal. -/
def sameNumber : Binary64 → Binary64 → Bool
  | nan, _ | _, nan => false
  | finite _ 0 _, finite _ 0 _ => true
  | x, y => x == y

/-- Whether a number is exactly the integer `n`. -/
def isInt (x : Binary64) (n : Int) : Bool :=
  match x with
  | finite negative mantissa exponent =>
    mantissa * Nat.pow 2 exponent == n.natAbs * Nat.pow 2 1074 &&
      (n == 0 || negative == decide (n < 0))
  | _ => false

/-- The mantissa from which on the leading bit is left out. -/
def leadingBit : Nat := Nat.pow 2 52

def signBits (negative : Bool) : Nat := if negative then Nat.pow 2 63 else 0

/-- The 64 bits: sign, biased exponent and fraction. -/
def toBits : Binary64 → Nat
  | .nan => 0x7ff8000000000000
  | .infinity negative => signBits negative + 0x7ff0000000000000
  | .finite negative mantissa exponent =>
    signBits negative +
      if mantissa < leadingBit then mantissa
      else (exponent + 1) * leadingBit + (mantissa - leadingBit)

end Binary64

end GoIdl.Decimal
