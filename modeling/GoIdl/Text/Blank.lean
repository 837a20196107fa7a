/-!
# White space

`isBlank` is the white space of every script, the four separator controls included.
`isAsciiBlank` is the smaller set that paragraph filling knows.
-/

namespace GoIdl.Text

def isBlank (c : Char) : Bool :=
  let n := c.toNat
  decide ((9 ≤ n ∧ n ≤ 13) ∨ (28 ≤ n ∧ n ≤ 32) ∨ n = 0x85 ∨ n = 0xa0 ∨ n = 0x1680 ∨
    (0x2000 ≤ n ∧ n ≤ 0x200a) ∨ n = 0x2028 ∨ n = 0x2029 ∨ n = 0x202f ∨ n = 0x205f ∨ n = 0x3000)

def isAsciiBlank (c : Char) : Bool :=
  c == ' ' || decide (9 ≤ c.toNat ∧ c.toNat ≤ 13)

/-- Drops the longest end whose characters all satisfy `p`. -/
def dropEndWhile (p : Char → Bool) : List Char → List Char
  | [] => []
  | c :: cs =>
    match dropEndWhile p cs with
    | [] => if p c then [] else [c]
    | kept => c :: kept

def trimStart (s : List Char) : List Char := s.dropWhile isBlank

def trimEnd (s : List Char) : List Char := dropEndWhile isBlank s

def trim (s : List Char) : List Char := trimEnd (trimStart s)

def isBlankText (s : List Char) : Bool := s.all isBlank

/-- Applies a function on characters to a string. -/
def onString (f : List Char → List Char) (s : String) : String := String.ofList (f s.toList)

end GoIdl.Text
