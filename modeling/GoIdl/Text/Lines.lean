/-!
# Splitting text

`lines` cuts at every line boundary, `splitOn` at a separator character, and `splitFirst` around
the first occurrence of a word.
-/

namespace GoIdl.Text

/-- The characters that end a line: line feed, vertical tab, form feed, carriage return, the file,
group and record separators, next line, and the line and paragraph separators. -/
def isLineEnd (c : Char) : Bool :=
  let n := c.toNat
  decide ((10 ≤ n ∧ n ≤ 13) ∨ (28 ≤ n ∧ n ≤ 30) ∨ n = 0x85 ∨ n = 0x2028 ∨ n = 0x2029)

/-- Puts a character in front of the first piece. -/
def consHead (c : Char) : List (List Char) → List (List Char)
  | [] => [[c]]
  | piece :: pieces => (c :: piece) :: pieces

/-- The lines of a text without their ends. A carriage return and a line feed end one line
together, and a line end at the end of the text starts no further line. -/
def lines : List Char → List (List Char)
  | [] => []
  | '\r' :: '\n' :: rest => [] :: lines rest
  | c :: rest => if isLineEnd c then [] :: lines rest else consHead c (lines rest)

/-- A carriage return, alone or before a line feed, becomes a line feed. -/
def unifyBreaks : List Char → List Char
  | '\r' :: '\n' :: rest => '\n' :: unifyBreaks rest
  | '\r' :: rest => '\n' :: unifyBreaks rest
  | c :: rest => c :: unifyBreaks rest
  | [] => []

/-- The pieces between the occurrences of `separator`, one more than there are occurrences. -/
def splitOn (separator : Char) : List Char → List (List Char)
  | [] => [[]]
  | c :: rest =>
    if c = separator then [] :: splitOn separator rest else consHead c (splitOn separator rest)

/-- The text before and after the first occurrence of `word`. -/
def splitFirst (word : List Char) : List Char → Option (List Char × List Char)
  | [] => if word.isEmpty then some ([], []) else none
  | c :: rest =>
    if word.isPrefixOf (c :: rest) then some ([], (c :: rest).drop word.length)
    else (splitFirst word rest).map fun (before, after) => (c :: before, after)

/-- The text before and after the last occurrence of `word`. -/
def splitLast (word s : List Char) : Option (List Char × List Char) :=
  (splitFirst word.reverse s.reverse).map fun (after, before) => (before.reverse, after.reverse)

def contains (word s : List Char) : Bool := (splitFirst word s).isSome

/-- Joins the pieces with `separator` between them. -/
def joinWith (separator : List Char) (pieces : List (List Char)) : List Char :=
  (pieces.intersperse separator).flatten

/-- The characters that two texts start with alike. -/
def commonStart : List Char → List Char → List Char
  | a :: as, b :: bs => if a = b then a :: commonStart as bs else []
  | _, _ => []

/-- A string cut at every occurrence of a character. -/
def splitString (separator : Char) (s : String) : List String :=
  (splitOn separator s.toList).map String.ofList

end GoIdl.Text
