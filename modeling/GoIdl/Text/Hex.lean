/-!
# Hexadecimal digits
-/

namespace GoIdl.Text

/-- A number in lower case hexadecimal, padded with zeros to `width`. -/
def hex (width n : Nat) : List Char :=
  let digits := Nat.toDigits 16 n
  List.replicate (width - digits.length) '0' ++ digits

def hexValue (c : Char) : Option Nat :=
  if c.isDigit then some (c.toNat - '0'.toNat)
  else if 'a' ≤ c ∧ c ≤ 'f' then some (c.toNat - 'a'.toNat + 10)
  else if 'A' ≤ c ∧ c ≤ 'F' then some (c.toNat - 'A'.toNat + 10)
  else none

def hexNumber (s : List Char) : Option Nat :=
  s.foldlM (fun n c => (hexValue c).map (n * 16 + ·)) 0

end GoIdl.Text
