import GoIdl.Text.AlphanumericTable
import GoIdl.Text.PrintableTable
import GoIdl.Text.LetterCaseTable

/-!
# Character classes

Each class answers for ASCII by comparison and looks every other character up in its table.
-/

namespace GoIdl.Text

def inRanges (ranges : List (Nat × Nat)) (c : Char) : Bool :=
  ranges.any fun (low, high) => decide (low ≤ c.toNat ∧ c.toNat ≤ high)

def inRuns (runs : List (Nat × Nat × Nat)) (c : Char) : Bool :=
  runs.any fun (low, high, step) =>
    decide (low ≤ c.toNat ∧ c.toNat ≤ high ∧ (c.toNat - low) % step = 0)

def isAscii (c : Char) : Bool := decide (c.toNat < 0x80)

/-- A letter, digit or numeral. -/
def isAlphanumeric (c : Char) : Bool :=
  if isAscii c then c.isAlphanum else inRanges alphanumericRanges c

/-- A character that may stand inside an identifier. -/
def isWord (c : Char) : Bool := c == '_' || isAlphanumeric c

/-- A decimal digit of any script. -/
def isDecimal (c : Char) : Bool :=
  if isAscii c then c.isDigit else inRanges decimalRanges c

/-- The value of a decimal digit. The digits of a script stand in order. -/
def decimalValue? (c : Char) : Option Nat :=
  if isAscii c then if c.isDigit then some (c.toNat - '0'.toNat) else none
  else
    let range? := decimalRanges.find? fun (low, high) => decide (low ≤ c.toNat ∧ c.toNat ≤ high)
    range?.map fun (low, _) => (c.toNat - low) % 10

/-- A character that may start an identifier. -/
def isWordStart (c : Char) : Bool := isWord c && !isDecimal c

/-- A character with a digit value, superscripts and circled digits included. -/
def hasDigitValue (c : Char) : Bool :=
  if isAscii c then c.isDigit else inRanges digitRanges c

/-- A character that is shown as itself in quoted text. -/
def isPrintable (c : Char) : Bool :=
  if isAscii c then decide (0x20 ≤ c.toNat ∧ c.toNat < 0x7f) else inRanges printableRanges c

def isUpper (c : Char) : Bool :=
  if isAscii c then c.isUpper else inRuns upperRuns c

def isLower (c : Char) : Bool :=
  if isAscii c then c.isLower else inRuns lowerRuns c

/-- A character that case decisions look through. -/
def isCaseIgnorable (c : Char) : Bool := inRanges caseIgnorableRanges c

/-- A character that has a case and counts in case decisions. -/
def isCased (c : Char) : Bool :=
  (isUpper c || isLower c || inRanges titleRanges c) && !isCaseIgnorable c

end GoIdl.Text
