import GoIdl.Text.CharacterNameTable
import GoIdl.Text.Hex
import GoIdl.Text.Lines

/-!
# Characters by their names

Most names stand in a table and count in either case. Those of the Chinese ideographs end in the
number of the character, and those of the Hangul syllables are made of the names of their letters.
-/

namespace GoIdl.Text

/-! ### The table -/

/-- The entries of a run: each mark with the text up to the next one or the end of the line. -/
def nameEntries : List Char → List (Char × List Char)
  | [] => []
  | c :: rest =>
    if c.isLower then
      (c, rest.takeWhile fun d => !d.isLower && d != '\n') :: nameEntries rest
    else nameEntries rest

/-- A word with its digits, last one first, counted up within their number. -/
def countUp : List Char → List Char
  | [] => []
  | c :: rest => if c = '9' then '0' :: countUp rest else Char.ofNat (c.toNat + 1) :: rest

/-- The `n` names after one, each with its last number counted up. -/
def countedNames (words : List (List Char)) : Nat → List (List (List Char))
  | 0 => []
  | n + 1 =>
    let last := (countUp (words.getLast?.getD []).reverse).reverse
    let next := words.dropLast ++ [last]
    next :: countedNames next n

/-- The names of a run, each as its words; `words` are those of the name before. -/
def runNames (words : List (List Char)) : List (Char × List Char) → List (List (List Char))
  | [] => []
  | (mark, text) :: rest =>
    if mark = 'y' then
      let names := countedNames words (text.foldl (fun n c => n * 10 + (c.toNat - '0'.toNat)) 0)
      names ++ runNames (names.getLast?.getD words) rest
    else
      let shared := words.take (mark.toNat - 'a'.toNat)
      let name := if text.isEmpty then shared else shared ++ splitOn ' ' text
      name :: runNames name rest

/-- The code point that a name has in a run. -/
def inRun? (words : List (List Char)) (run : Nat × String) : Option Nat :=
  ((runNames [] (nameEntries run.2.toList)).idxOf? words).map (run.1 + ·)

/-! ### Names that end in a number -/

/-- The ideographs that stand for words. -/
def unifiedRanges : List (Nat × Nat) :=
  [(0x3400, 0x4dbf), (0x4e00, 0x9fff), (0x20000, 0x2a6df), (0x2a700, 0x2b738), (0x2b740, 0x2b81d),
   (0x2b820, 0x2cea1), (0x2ceb0, 0x2ebe0), (0x30000, 0x3134a)]

/-- Further names that end in the number of the character, with the characters that have them. -/
def numberedNames : List (String × List (Nat × Nat)) :=
  [("CJK COMPATIBILITY IDEOGRAPH-", [(0xf900, 0xfa6d), (0xfa70, 0xfad9), (0x2f800, 0x2fa1d)]),
   ("KHITAN SMALL SCRIPT CHARACTER-", [(0x18b00, 0x18cd5)]),
   ("NUSHU CHARACTER-", [(0x1b170, 0x1b2fb)])]

/-- The number in capital digits, four or five, that lies in one of the ranges. -/
def numberIn? (ranges : List (Nat × Nat)) (digits : List Char) : Option Nat :=
  if (digits.length = 4 ∨ digits.length = 5) ∧ !digits.any Char.isLower then
    (hexNumber digits).filter fun n => ranges.any fun (low, high) => decide (low ≤ n ∧ n ≤ high)
  else none

/-! ### Syllables -/

def leadingLetters : List String :=
  ["G", "GG", "N", "D", "DD", "R", "M", "B", "BB", "S", "SS", "", "J", "JJ", "C", "K", "T", "P",
   "H"]

def vowels : List String :=
  ["A", "AE", "YA", "YAE", "EO", "E", "YEO", "YE", "O", "WA", "WAE", "OE", "YO", "U", "WEO", "WE",
   "WI", "YU", "EU", "YI", "I"]

def trailingLetters : List String :=
  ["", "G", "GG", "GS", "N", "NJ", "NH", "D", "L", "LG", "LM", "LB", "LS", "LT", "LP", "LH", "M",
   "B", "BS", "S", "SS", "NG", "J", "C", "K", "T", "P", "H"]

/-- The longest of the letters that a text starts with: its number, and the text after it. -/
def letterOf? (letters : List String) (s : List Char) : Option (Nat × List Char) :=
  let fitting := letters.zipIdx.filter fun (letter, _) => letter.toList.isPrefixOf s
  let longer (best : Option (String × Nat)) (next : String × Nat) : Option (String × Nat) :=
    if best.all fun b => decide (b.1.length < next.1.length) then some next else best
  (fitting.foldl longer none).map fun (letter, index) => (index, s.drop letter.length)

/-- The syllable that the names of its letters spell. -/
def syllable? (s : List Char) : Option Nat := do
  let (leading, rest) ← letterOf? leadingLetters s
  let (vowel, rest) ← letterOf? vowels rest
  let (trailing, rest) ← letterOf? trailingLetters rest
  if rest.isEmpty then
    some (0xac00 + (leading * vowels.length + vowel) * trailingLetters.length + trailing)
  else none

/-! ### All names -/

/-- The text after a word at the start of a text. -/
def afterWord? (word : String) (s : List Char) : Option (List Char) :=
  if word.toList.isPrefixOf s then some (s.drop word.length) else none

/-- The character that a name in capitals has outside the rules for syllables and ideographs. -/
def listed? (name : List Char) : Option Nat :=
  let words := splitOn ' ' name
  (numberedNames.findSome? fun (start, ranges) =>
      (afterWord? start name).bind (numberIn? ranges)) <|>
    nameRuns.findSome? (inRun? words) <|> furtherNames.findSome? (inRun? words)

def charNamed? (name : List Char) : Option Char :=
  let code :=
    match afterWord? "HANGUL SYLLABLE " name, afterWord? "CJK UNIFIED IDEOGRAPH-" name with
    | some letters, _ => syllable? letters
    | none, some digits => numberIn? unifiedRanges digits
    | none, none => listed? (name.map Char.toUpper)
  code.map Char.ofNat

end GoIdl.Text
